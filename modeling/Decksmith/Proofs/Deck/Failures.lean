import Decksmith.Proofs.Deck.Stock
import Decksmith.Proofs.Deck.Validation
import Decksmith.Proofs.Query.Evaluation

/-! What the validation of a deck reports: each card that fails, once, in the order of the deck, with the first
rule that does not select its record. -/

namespace Decksmith

/-- A tree in which no intersection of nothing can be reached from the root. -/
def QueryTree.Proper (tree : QueryTree) : Prop :=
  ∀ id, tree.nodes.Reaches tree.root id → tree.nodes[id.index]? ≠ some (.group .intersect [])

/-- A tree has none to be reached if it has none at all. -/
theorem QueryTree.proper_of_nodes {tree : QueryTree}
    (some : ∀ node ∈ tree.nodes, node ≠ .group .intersect []) : tree.Proper :=
  fun _ _ found => some _ (Array.mem_of_getElem? found) rfl

/-- Of records in a list, a tree without an intersection of nothing selects those that its query holds of. -/
theorem QueryTree.Proper.mem_select_iff {tree : QueryTree} (proper : tree.Proper) {mode : CaseMode}
    {records : List Record} {record : Record} (member : record ∈ records) :
    record ∈ tree.select mode records ↔ tree.toQuery.holds mode record = true := by
  have whole : tree.toQuery.Proper := Nodes.queryAt_proper _ proper
  rw [select_eq_filter, List.mem_filter, marks_eq, seen, whole.marks_eq_holds]
  exact and_iff_right member

variable {mode : CaseMode} {records : List Record} {rules : List Query} {card : CardId}
  {failure : ValidationFailure}

/-- A failure names the card that fails. -/
theorem card_of_failure? (found : failure? mode records rules card = some failure) :
    failure.card = card := by
  unfold failure? at found
  -- Without a record and with one, a failure is made of the card that is checked.
  split at found
  · cases found
    rfl
  · obtain ⟨_, -, rfl⟩ := Option.map_eq_some_iff.mp found
    rfl

/-- A card fails without a rule just when it has no record. -/
theorem failure?_eq_unknown_iff :
    failure? mode records rules card = some ⟨card, none⟩ ↔
      Record.lastWithId? records card = none := by
  -- With a record, every failure names a rule.
  unfold failure?
  cases Record.lastWithId? records card with
  | none => simp
  | some record => simp

/-- A card fails with a rule just when it has a record of which this rule is the first that does not hold. -/
theorem failure?_eq_failed_iff {index : Nat} :
    failure? mode records rules card = some ⟨card, some index⟩ ↔
      ∃ record, Record.lastWithId? records card = some record ∧
        rules.findIdx? (fun rule => !rule.holds mode record) = some index := by
  -- Without a record the failure names no rule, and with one it is the first rule that does not hold.
  unfold failure?
  cases Record.lastWithId? records card with
  | none => simp
  | some record => simp

/-- A card that fails some rules fails in the same way if further rules come behind them. -/
theorem failure?_append (more : List Query) (found : failure? mode records rules card = some failure) :
    failure? mode records (rules ++ more) card = some failure := by
  unfold failure? at found ⊢
  split at found
  · exact found
  · obtain ⟨index, first, rfl⟩ := Option.map_eq_some_iff.mp found
    -- What has been found among the first rules is found before the others are looked at.
    rw [List.findIdx?_append, first, Option.some_or, Option.map_some]

/-- Whatever a further choice keeps stays in the same order among what it takes. -/
theorem filterMap_sublist {α β : Type} {choose wider : α → Option β} {items : List α}
    (kept : ∀ item chosen, choose item = some chosen → wider item = some chosen) :
    (items.filterMap choose).Sublist (items.filterMap wider) := by
  induction items with
  | nil => exact .slnil
  | cons item others ih =>
    cases found : choose item with
    | none =>
      -- The wider choice may take what the other one leaves out.
      rw [List.filterMap_cons_none found, List.filterMap_cons]
      split
      · exact ih
      · exact ih.cons _
    | some chosen =>
      rw [List.filterMap_cons_some found, List.filterMap_cons_some (kept item chosen found)]
      exact ih.cons_cons chosen

namespace Deck

variable {deck : Deck}

/-- A deck is checked card by card. -/
theorem validate_eq : deck.validate mode records rules = deck.cards.filterMap (failure? mode records rules) := by
  rw [validate, cards, List.filterMap_map]
  rfl

/-- A deck reports the failures of its cards. -/
theorem mem_validate_iff : failure ∈ deck.validate mode records rules ↔
    failure.card ∈ deck.cards ∧ failure? mode records rules failure.card = some failure := by
  rw [validate_eq, List.mem_filterMap]
  constructor
  -- A failure belongs to the card that it was found for.
  · rintro ⟨card, member, found⟩
    obtain rfl := card_of_failure? found
    exact ⟨member, found⟩
  · rintro ⟨member, found⟩
    exact ⟨failure.card, member, found⟩

/-- The cards that a deck reports are those that fail, in the order of the deck. -/
theorem map_card_validate : (deck.validate mode records rules).map ValidationFailure.card =
    deck.cards.filter fun card => (failure? mode records rules card).isSome := by
  rw [validate_eq, List.map_filterMap, ← List.filterMap_eq_filter]
  -- Of each card that fails, the failure names just this card.
  refine List.filterMap_congr fun card _ => ?_
  cases found : failure? mode records rules card with
  | none => simp [Option.guard, found]
  | some failure => simp [Option.guard, found, card_of_failure? found]

end Deck

/-- The position of the first of some rules that does not select a record. -/
structure FirstMissing (mode : CaseMode) (records : List Record) (rules : List QueryTree) (record : Record)
    (index : Nat) : Prop where
  missing : ∃ rule, rules[index]? = some rule ∧ record ∉ rule.select mode records
  earlier : ∀ before < index, ∀ rule, rules[before]? = some rule → record ∈ rule.select mode records

/-- The search for a rule that does not hold ends at the first one that does not select the record. -/
theorem findIdx?_eq_some_iff_firstMissing {rules : List QueryTree} {record : Record} {index : Nat}
    (proper : ∀ rule ∈ rules, rule.Proper) (member : record ∈ records) :
    (rules.map QueryTree.toQuery).findIdx? (fun rule => !rule.holds mode record) = some index ↔
      FirstMissing mode records rules record index := by
  have selects : ∀ {position} (within : position < rules.length),
      record ∈ rules[position].select mode records ↔ rules[position].toQuery.holds mode record = true :=
    fun within => (proper _ (List.getElem_mem within)).mem_select_iff member
  rw [List.findIdx?_map, List.findIdx?_eq_some_iff_getElem]
  -- On both sides something is said of one position and of all positions in front of it.
  constructor
  · rintro ⟨within, fails, before⟩
    refine ⟨⟨_, List.getElem?_eq_getElem within, ?_⟩, fun position less rule found => ?_⟩
    · rw [selects within]
      simpa using fails
    · obtain ⟨inside, rfl⟩ := List.getElem?_eq_some_iff.mp found
      rw [selects inside]
      simpa using before position less
  · rintro ⟨⟨rule, found, fails⟩, earlier⟩
    obtain ⟨within, rfl⟩ := List.getElem?_eq_some_iff.mp found
    refine ⟨within, ?_, fun position less => ?_⟩
    · rw [selects within] at fails
      simpa using fails
    · have holds := earlier position less _ (List.getElem?_eq_getElem (Nat.lt_trans less within))
      rw [selects] at holds
      simpa using holds

/-- What failures tell about some cards: which of them fail, in their order and each once, whether there is a
record for them, and which rule is the first not to select the last such record. -/
structure Reports (mode : CaseMode) (records : List Record) (rules : List QueryTree) (cards : List CardId)
    (failures : List ValidationFailure) : Prop where
  ordered : (failures.map ValidationFailure.card).Sublist cards
  once : (failures.map ValidationFailure.card).Nodup
  passed : ∀ card ∈ cards, card ∉ failures.map ValidationFailure.card ↔
    ∃ record, Record.LastWithId records card record ∧ ∀ rule ∈ rules, record ∈ rule.select mode records
  unknown : ∀ card ∈ cards, ⟨card, none⟩ ∈ failures ↔ ∀ record ∈ records, record.id ≠ card
  failed : ∀ card ∈ cards, ∀ index, ⟨card, some index⟩ ∈ failures ↔
    ∃ record, Record.LastWithId records card record ∧ FirstMissing mode records rules record index

namespace Deck

open DeckOperation (run)
open QueryTree (named upsideDown)

variable {deck : Deck}

/-- The validation of a well-formed deck by rules without an intersection of nothing. -/
theorem WellFormed.reports (formed : deck.WellFormed) {rules : List QueryTree}
    (proper : ∀ rule ∈ rules, rule.Proper) :
    Reports mode records rules deck.cards (deck.validate mode records (rules.map QueryTree.toQuery)) where
  ordered := by
    rw [map_card_validate]
    exact List.filter_sublist
  once := by
    rw [map_card_validate]
    exact formed.distinct.filter _
  passed card present := by
    -- A card that is not reported is one without a failure, so all rules hold of its record.
    rw [map_card_validate, List.mem_filter, not_and, Bool.not_eq_true, Option.isSome_eq_false_iff,
      Option.isNone_iff_eq_none, failure?_eq_none_iff, imp_iff_right present]
    refine exists_congr fun record => ?_
    rw [Record.lastWithId?_eq_some_iff, List.forall_mem_map]
    refine and_congr_right fun last => forall₂_congr fun rule listed => ?_
    exact ((proper rule listed).mem_select_iff last.mem).symm
  unknown card present := by
    rw [mem_validate_iff, and_iff_right present, failure?_eq_unknown_iff, Record.lastWithId?_eq_none_iff]
  failed card present index := by
    rw [mem_validate_iff, and_iff_right present, failure?_eq_failed_iff]
    refine exists_congr fun record => ?_
    rw [Record.lastWithId?_eq_some_iff]
    exact and_congr_right fun last => findIdx?_eq_some_iff_firstMissing proper last.mem

/-- With further rules behind the others, what a deck reports is reported as before. -/
theorem validate_append (rules more : List Query) :
    (deck.validate mode records rules).Sublist (deck.validate mode records (rules ++ more)) ∧
      ∀ failure ∈ deck.validate mode records rules, ∀ other ∈ deck.validate mode records (rules ++ more),
        other.card = failure.card → other = failure := by
  refine ⟨?_, fun failure reported other also same => ?_⟩
  -- Each card that failed fails in the same way, and others may join in their places.
  · rw [validate_eq, validate_eq]
    exact filterMap_sublist fun _ _ => failure?_append more
  · -- Both are the failure of one card under all the rules.
    have first := failure?_append more (mem_validate_iff.mp reported).2
    have second := (mem_validate_iff.mp also).2
    rw [same, first] at second
    exact (Option.some_inj.mp second).symm

/-- The validation of a deck that has gone through some operations, by rules without an intersection of nothing.
It reports exactly the cards whose last record some rule does not select, or that have no record, and further
rules neither take a report away nor change it. -/
theorem validate_reports (start : List DeckEntry) (operations : List DeckOperation) (mode : CaseMode)
    (records : List Record) {rules : List QueryTree} (proper : ∀ rule ∈ rules, rule.Proper) :
    let deck := (run apply (ofEntries start) operations).2
    Reports mode records rules deck.cards (deck.validate mode records (rules.map QueryTree.toQuery)) ∧
      ∀ more : List QueryTree,
        (deck.validate mode records (rules.map QueryTree.toQuery)).Sublist
          (deck.validate mode records ((rules ++ more).map QueryTree.toQuery)) ∧
        ∀ failure ∈ deck.validate mode records (rules.map QueryTree.toQuery),
          ∀ other ∈ deck.validate mode records ((rules ++ more).map QueryTree.toQuery),
            other.card = failure.card → other = failure := by
  -- Whatever operations a deck has gone through, it is well-formed.
  obtain ⟨formed, -, -⟩ := run_stock (stock_ofEntries start).1 operations
  refine ⟨formed.reports proper, fun more => ?_⟩
  rw [List.map_append]
  exact validate_append _ _

/-- Two rules: a card is to be named "a" or "b", and it is to be named "a". -/
def namings : List QueryTree :=
  [upsideDown, .ofPredicate ⟨.name, .none, .equal, "a"⟩]

/-- A deck that passes over one of its cards, whose name the last of two records tells, and reports three. -/
theorem validate_reports_namings :
    let deck := (run apply (ofEntries [⟨⟨1⟩, 2⟩, ⟨⟨4⟩, 1⟩, ⟨⟨2⟩, 1⟩, ⟨⟨3⟩, 1⟩]) [.cap ⟨1⟩ 0, .add ⟨1⟩ 3]).2
    let records := [named 1 "c", named 4 "b", named 1 "a", named 2 "c"]
    (∀ rule ∈ namings, rule.Proper) ∧
      Reports .strict records namings deck.cards
        (deck.validate .strict records (namings.map QueryTree.toQuery)) ∧
      deck.validate .strict records (namings.map QueryTree.toQuery) =
        [⟨⟨4⟩, some 1⟩, ⟨⟨2⟩, some 0⟩, ⟨⟨3⟩, none⟩] := by
  -- Neither rule has an empty intersection.
  have proper : ∀ rule ∈ namings, rule.Proper := by
    have nodes : ∀ rule ∈ namings, ∀ node ∈ rule.nodes, node ≠ .group .intersect [] := by decide
    exact fun rule listed => QueryTree.proper_of_nodes (nodes rule listed)
  exact ⟨proper, (validate_reports _ _ .strict _ proper).1, by decide +kernel⟩

end Deck

end Decksmith
