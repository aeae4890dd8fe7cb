import Decksmith.Deck.Validation
import Decksmith.Proofs.Deck.Index

/-! When a deck passes its rules: every card is that of a record which all rules hold of. -/

namespace Decksmith

/-- Among records with distinct identities each one is found by its own. -/
theorem Record.lastWithId?_of_mem {records : List Record} {record : Record}
    (distinct : (records.map Record.id).Nodup) (member : record ∈ records) :
    lastWithId? records record.id = some record := by
  unfold lastWithId?
  -- The search finds something, and what it finds has the identity of the record.
  cases found : records.reverse.find? (·.id == record.id) with
  | none => simpa using List.find?_eq_none.mp found record (List.mem_reverse.mpr member)
  | some other =>
    have present : other ∈ records := List.mem_reverse.mp (List.mem_of_find?_eq_some found)
    have same : other.id = record.id := by simpa using List.find?_some found
    rw [List.inj_on_of_nodup_map distinct present member same]

/-- A record with an identity that none of the records behind it has. -/
def Record.LastWithId (records : List Record) (card : CardId) (record : Record) : Prop :=
  record.id = card ∧
    ∃ front back, records = front ++ record :: back ∧ ∀ other ∈ back, other.id ≠ card

/-- The last record with an identity is one of the records. -/
theorem Record.LastWithId.mem {records : List Record} {card : CardId} {record : Record}
    (last : LastWithId records card record) : record ∈ records := by
  obtain ⟨-, front, back, rfl, -⟩ := last
  simp

/-- What is found by an identity is the last record that has it. -/
theorem Record.lastWithId?_eq_some_iff {records : List Record} {card : CardId} {record : Record} :
    lastWithId? records card = some record ↔ LastWithId records card record := by
  rw [lastWithId?, List.find?_eq_some_iff_append, LastWithId, beq_iff_eq]
  refine and_congr_right fun _ => ⟨?_, ?_⟩
  · -- The search goes backwards, so what it has passed over stands behind the record.
    rintro ⟨back, front, reversed, passed⟩
    refine ⟨front.reverse, back.reverse, ?_, fun other member => ?_⟩
    · simpa using congrArg List.reverse reversed
    · simpa using passed other (List.mem_reverse.mp member)
  -- Conversely, read from the back the record is the first one with its identity.
  · rintro ⟨front, back, rfl, others⟩
    refine ⟨back.reverse, front.reverse, by simp, fun other member => ?_⟩
    simpa using others other (List.mem_reverse.mp member)

/-- Nothing is found by an identity that no record has. -/
theorem Record.lastWithId?_eq_none_iff {records : List Record} {card : CardId} :
    lastWithId? records card = none ↔ ∀ record ∈ records, record.id ≠ card := by
  simp [lastWithId?]

/-- A card passes just when it has a record that all rules hold of. -/
theorem failure?_eq_none_iff {mode : CaseMode} {records : List Record} {rules : List Query}
    {card : CardId} : failure? mode records rules card = none ↔
      ∃ record, Record.lastWithId? records card = some record ∧
        ∀ rule ∈ rules, rule.holds mode record = true := by
  unfold failure?
  cases Record.lastWithId? records card with
  -- A card without a record fails, and so it has no record that passes.
  | none => simp
  | some record => simp [List.findIdx?_eq_none_iff]

/-- A deck passes just when all its cards do. -/
theorem Deck.validate_eq_nil_iff {deck : Deck} {mode : CaseMode} {records : List Record}
    {rules : List Query} : deck.validate mode records rules = [] ↔
      ∀ card ∈ deck.cards, ∃ record, Record.lastWithId? records card = some record ∧
        ∀ rule ∈ rules, rule.holds mode record = true := by
  simp only [validate, List.filterMap_eq_nil_iff, failure?_eq_none_iff, cards, List.forall_mem_map]

end Decksmith
