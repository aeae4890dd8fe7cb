import Decksmith.Proofs.Assembly.Sound
import Decksmith.Proofs.Deck.Validation
import Decksmith.Proofs.Slot.Admission

/-! Where the cards of an assembled deck come from: each is that of a record which some slot admits. -/

namespace Decksmith.Assembler

variable {assembler : Assembler} {records : List Record} {source : Random.Source}

/-- What is picked at a visit, one of the slots admits. -/
theorem Picks.admitted {progress : Progress} {turn : Turn} {picks : List Record}
    {drawn : Random.Source} (chosen : assembler.Picks progress turn picks drawn)
    (slotted : assembler.slots ≠ []) :
    ∃ slot ∈ assembler.allSlots,
      ∀ record ∈ picks, slot.Admits assembler.settings.caseMode record := by
  cases chosen with
  | inactive next _ =>
    -- The slot has its turn, but nothing is picked.
    refine ⟨_, slotFor_mem slotted progress.last progress.source, fun record member => ?_⟩
    cases member
  | active next _ picked =>
    have turn := slotFor_mem slotted progress.last progress.source
    rw [next] at turn
    refine ⟨_, turn, ?_⟩
    -- The remainder slot and the others differ only in how many records they pick.
    unfold picksFor at picked
    dsimp only at picked
    split at picked
    · exact Slot.selectCount_admits picked
    · exact Slot.select_admits picked

/-- The cards of a deck that has grown by some picks are those from before and those of the picks. -/
theorem mem_cards_addPicks {total : Nat} {picks : List Record} {deck : Deck}
    (formed : deck.WellFormed) {card : CardId}
    (member : card ∈ (assembler.addPicks total picks deck 0).1.cards) :
    card ∈ deck.cards ∨ ∃ record ∈ picks, record.id = card := by
  -- Every addition brings in the card of its pick, if that is not there already.
  have step : ∀ record ∈ picks, ∀ (grown : Deck) (added : Nat),
      (grown.WellFormed ∧ ∀ card ∈ grown.cards, card ∈ deck.cards ∨
        ∃ record ∈ picks, record.id = card) →
      total + added < assembler.settings.maxTotal → assembler.isCapped grown record.id = false →
      (grown.add record.id 1).WellFormed ∧ ∀ card ∈ (grown.add record.id 1).cards,
        card ∈ deck.cards ∨ ∃ record ∈ picks, record.id = card := by
    intro record picked grown _ ⟨formed, origin⟩ _ _
    refine ⟨formed.add record.id 1, fun card present => ?_⟩
    rcases Deck.mem_cards_add formed present with rfl | earlier
    · exact .inr ⟨record, picked, rfl⟩
    · exact origin card earlier
  exact (assembler.addPicks_preserves total step ⟨formed, fun _ present => .inl present⟩).2 card member

/-- Where a card may come from: a record with its identity that some slot admits. -/
def Supplies (assembler : Assembler) (records : List Record) (card : CardId) : Prop :=
  ∃ record ∈ records, record.id = card ∧
    ∃ slot ∈ assembler.allSlots, slot.Admits assembler.settings.caseMode record

/-- Every card of the deck has its origin, in every state of an assembly. -/
theorem Reaches.supplied (slotted : assembler.slots ≠ []) {visits : Nat} {progress : Progress}
    (reached : assembler.Reaches records source visits progress) :
    ∀ card ∈ progress.deck.cards, assembler.Supplies records card := by
  -- A visit keeps the origins of the cards that are there, and the new cards come from its picks.
  induction reached with
  | start => simp [Assembler.start, Deck.empty, Deck.cards]
  | visit earlier _ _ visited ih =>
    obtain ⟨turn, picks, picked, rfl⟩ := visit_picks visited
    obtain ⟨slot, member, admits⟩ := picked.admitted slotted
    intro card present
    -- A card has been there before the visit, or it is that of a pick.
    rcases mem_cards_addPicks earlier.sound.stocked.formed present with before | ⟨record, here, rfl⟩
    · exact ih card before
    · exact ⟨record, earlier.sound.picks_subset picked here, rfl, slot, member, admits record here⟩

/-- The trim brings no card into a deck. -/
theorem cards_trimmed_subset {deck : Deck} (formed : deck.WellFormed) :
    (assembler.trimmed records deck).cards ⊆ deck.cards := by
  intro card present
  by_contra absent
  -- A card of which there was no copy before would have some afterwards.
  obtain ⟨kept, lower⟩ := assembler.trimmed_lowers records formed
  have none := lower card
  rw [formed.quantity_of_not_mem absent, Nat.le_zero, kept.quantity_eq_zero_iff] at none
  exact none present

/-- Without slots nothing is assembled. -/
theorem slots_ne_nil {deck : Deck} (assembled : (assembler.assemble records source).1 = .ok deck) :
    assembler.slots ≠ [] := by
  intro none
  -- The fault is reported before the first visit.
  simp [assemble, none] at assembled

/-- Every card of an assembled deck is that of a record which some slot admits. If the slots pick at random
without rankings, and a rule holds of whatever one of their filters holds of, then the deck passes that rule,
as long as no two records share an identity. -/
theorem assemble_supplied {deck : Deck}
    (assembled : (assembler.assemble records source).1 = .ok deck) :
    (∀ card ∈ deck.cards, assembler.Supplies records card) ∧
    ∀ rule : Query, (records.map Record.id).Nodup →
      (∀ slot ∈ assembler.allSlots, slot.policy = .randomByPointWeight ∧ slot.rankings = []) →
      (∀ record ∈ records, ∀ slot ∈ assembler.allSlots, ∀ filter ∈ slot.filters,
        filter.1.holds assembler.settings.caseMode record = true →
          rule.holds assembler.settings.caseMode record = true) →
      deck.validate assembler.settings.caseMode records [rule] = [] := by
  have slotted := slots_ne_nil assembled
  -- The deck is that of the last state without what the trim has removed.
  obtain ⟨last, filled, rfl⟩ := assemble_ok assembled
  obtain ⟨⟨visits, reached⟩, -⟩ := fill_ok filled
  have supplied : ∀ card ∈ (assembler.trimmed records last.deck).cards,
      assembler.Supplies records card := fun card present =>
    reached.supplied slotted card (cards_trimmed_subset reached.sound.stocked.formed present)
  refine ⟨supplied, fun rule distinct random covered => ?_⟩
  refine Deck.validate_eq_nil_iff.mpr fun card present => ?_
  -- The record that a card comes from is the only one with its identity, so the rule is asked of it.
  obtain ⟨record, member, rfl, slot, listed, admits⟩ := supplied card present
  obtain ⟨policy, unranked⟩ := random slot listed
  obtain ⟨filter, among, holds⟩ := admits.matched policy unranked
  refine ⟨record, Record.lastWithId?_of_mem distinct member, fun other same => ?_⟩
  rw [List.mem_singleton.mp same]
  exact covered record member slot listed filter among holds

/-- An assembler with a single slot, which picks at random what is not named "a" and is not banned. -/
def drawing : Assembler where
  settings := { minTotal := 1, maxTotal := 1 }
  slots := [{ filters := [(.test ⟨.name, .none, .notEqual, "a"⟩, 1)], blacklist := [⟨2⟩] }]

/-- The only card that comes into question gets into the deck, and passes the filter as a rule. -/
theorem assemble_supplied_drawing :
    (drawing.assemble [bare 1, bare 2] (.ofSeed 0)).1 = .ok (.ofEntries [⟨⟨1⟩, 1⟩]) ∧
      drawing.Supplies [bare 1, bare 2] ⟨1⟩ ∧
      Deck.validate (.ofEntries [⟨⟨1⟩, 1⟩]) .ignoring [bare 1, bare 2]
        [.test ⟨.name, .none, .notEqual, "a"⟩] = [] := by
  have next : drawing.nextTurn none (.ofSeed 0) = (.slot 0, .ofSeed 0) := rfl
  have active : (drawing.slotFor (.slot 0)).activates (.ofSeed 0) = (true, .ofSeed 0) := rfl
  -- One candidate is left without the blacklist, and whatever is drawn falls on it.
  obtain ⟨drawn, chosen⟩ := @Slot.pickRandom_singleton ⟨bare 1, 0.0 + Float.ofInt 1⟩
    (by decide +kernel) (by decide +kernel) (by decide +kernel) (.ofSeed 0)
  have picked : drawing.picksFor (.slot 0) (drawing.slotFor (.slot 0))
      (drawing.openPool .empty [bare 1, bare 2]) 1 (.ofSeed 0) = (.ok [bare 1], drawn) := by
    show (Except.map (List.map Candidate.record)
      (Slot.pickRandom [⟨bare 1, 0.0 + Float.ofInt 1⟩] 1 (.ofSeed 0)).1,
      (Slot.pickRandom [⟨bare 1, 0.0 + Float.ofInt 1⟩] 1 (.ofSeed 0)).2) = _
    rw [chosen]
    rfl
  have assembled : (drawing.assemble [bare 1, bare 2] (.ofSeed 0)).1 =
      .ok (.ofEntries [⟨⟨1⟩, 1⟩]) := by
    unfold assemble
    rw [fill_of_picks next active picked (by decide) (by decide) (by decide)]
    rfl
  obtain ⟨supplied, valid⟩ := assemble_supplied assembled
  refine ⟨assembled, supplied ⟨1⟩ (by decide), valid _ (by decide) ?_ ?_⟩
  · simp [allSlots, drawing]
  · simp [allSlots, drawing]

end Decksmith.Assembler
