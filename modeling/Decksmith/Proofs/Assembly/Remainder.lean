import Decksmith.Proofs.Assembly.Schedule
import Decksmith.Proofs.Assembly.Sound

/-! The remainder slot is asked for what is missing, so it fills a deck up to its smallest size exactly. -/

namespace Decksmith.Assembler

variable {assembler : Assembler} {records : List Record} {source : Random.Source}

/-- No more copies are added than have been picked. -/
theorem addPicks_le_length (assembler : Assembler) (total : Nat) (picks : List Record) (deck : Deck)
    (added : Nat) : (assembler.addPicks total picks deck added).2 ≤ added + picks.length := by
  -- The induction is on the picks, each of which adds one copy or none.
  induction picks generalizing deck added with
  | nil => exact Nat.le_refl added
  | cons record others ih =>
    simp only [addPicks, List.length_cons]
    split
    · omega
    · split
      · have passed := ih deck added
        omega
      · have counted := ih (deck.add record.id 1) (added + 1)
        omega

/-- At a turn of the remainder slot no more is picked than is missing. -/
theorem Picks.length_le {progress : Progress} {picks : List Record} {drawn : Random.Source}
    (picked : assembler.Picks progress .remainder picks drawn) :
    picks.length ≤ assembler.settings.minTotal - progress.total := by
  cases picked with
  -- A slot that stays inactive picks nothing.
  | inactive _ _ => exact Nat.zero_le _
  | active _ _ selected =>
    -- The missing copies are the count that the slot is asked for, whatever its policy is.
    obtain ⟨chosen, rfl, chooses⟩ := Slot.selectCount_chooses selected
    rw [List.length_map]
    exact chooses.few

/-- While the remainder slot has its turn, every single addition keeps the deck within its smallest size. -/
theorem Picks.total_le {progress : Progress} {front back : List Record} {drawn : Random.Source}
    (missing : progress.total < assembler.settings.minTotal)
    (picked : assembler.Picks progress .remainder (front ++ back) drawn) :
    progress.total + (assembler.addPicks progress.total front progress.deck 0).2 ≤
      assembler.settings.minTotal := by
  -- The front is no longer than all picks, and no pick adds more than one copy.
  have few := picked.length_le
  have counted := assembler.addPicks_le_length progress.total front progress.deck 0
  rw [List.length_append] at few
  omega

/-- Only in sequence does the remainder slot ever have its turn. -/
theorem sequential_of_remainder {last : Option Turn} {source : Random.Source}
    (next : (assembler.nextTurn last source).1 = .remainder) :
    assembler.settings.iterationPolicy ≠ .random := by
  -- At random it is always one of the numbered slots.
  intro random
  simp [nextTurn, random] at next

/-- Once the remainder slot has had a turn, it has all of them. -/
theorem Turns.remainder (slotted : assembler.slots ≠ []) {visits later : Nat}
    {progress state : Progress} {turn : Turn}
    (phase : assembler.Turns records source visits progress .remainder) (behind : visits ≤ later)
    (taken : assembler.Turns records source later state turn) : turn = .remainder := by
  have sequential := sequential_of_remainder phase.next
  -- The number of a visit decides about its turn, and a later number about the same one.
  have first := phase.eq_turnAt slotted sequential
  rw [taken.eq_turnAt slotted sequential]
  unfold turnAt at first ⊢
  split at first
  · rename_i filling
    simp only [Bool.and_eq_true, decide_eq_true_eq] at filling
    simp [filling.1, filling.2.trans behind]
  · cases first

/-- Once the remainder slot has had a turn, no visit takes the deck beyond its smallest size. -/
theorem Turns.total_le (slotted : assembler.slots ≠ []) {visits later : Nat}
    {progress state : Progress} (phase : assembler.Turns records source visits progress .remainder)
    (behind : visits < later) (reached : assembler.Reaches records source later state) :
    state.total ≤ assembler.settings.minTotal := by
  -- A later state is that behind a visit, and the visit was to the remainder slot.
  cases reached with
  | start => omega
  | @visit earlier before done drawn reached missing patient visited =>
    have taken : assembler.Turns records source earlier before _ := ⟨reached, missing, patient, rfl⟩
    have turn := turn_of_visit visited
    rw [phase.remainder slotted (Nat.le_of_lt_succ behind) taken] at turn
    obtain ⟨_, picks, picked, rfl⟩ := visit_picks visited
    simp only at turn
    subst turn
    rw [← List.append_nil picks] at picked
    exact picked.total_le missing

/-- A filled deck is that of a state behind every visit. -/
theorem Turns.exists_later {visits : Nat} {progress last : Progress} {turn : Turn}
    (taken : assembler.Turns records source visits progress turn)
    (filled : (assembler.fill (start records source)).1 = .ok last) :
    ∃ final, visits < final ∧ assembler.Reaches records source final last := by
  have missing := taken.missing
  have patient := taken.patient
  rcases visited : assembler.visit progress with ⟨fault | done, drawn⟩
  · -- A slot that cannot pick fails the whole filling.
    rw [← taken.reached.fill_eq, fill, Progress.repeatVisits, if_neg (by omega), if_neg (by omega),
      visited] at filled
    cases filled
  · -- The other visits go on behind this one, and end in the same way.
    have next := taken.reached.visit missing patient visited
    obtain ⟨final, state, behind, reached, ends⟩ := next.ends
    rw [next.fill_eq] at ends
    generalize assembler.fill (start records source) = outcome at filled ends
    cases ends with
    | filled _ =>
      cases filled
      exact ⟨final, behind, reached⟩
    | stalled _ _ => cases filled
    | failed _ _ => cases filled

/-- The trim takes nothing from a deck that has no more than its smallest size. -/
theorem trimCopies_of_le (assembler : Assembler) (records : List Record) {deck : Deck}
    (few : deck.total ≤ assembler.settings.minTotal) :
    assembler.trimCopies records deck = (0, deck) := by
  -- There is no excess, so the budget is zero whatever share of it may go.
  have budget : trimBudget assembler.settings deck.total = 0 := if_pos few
  unfold trimCopies
  cases assembler.trim with
  | none => rfl
  | some filter => simp only [budget, if_true]

/-- Once the remainder slot has had a turn, every further turn is its own, and no addition takes the deck
beyond its smallest size. A deck that is assembled then has exactly that size, and the trim has left it as
it was. -/
theorem remainder_fills_exactly (slotted : assembler.slots ≠ []) {visits : Nat} {progress : Progress}
    (phase : assembler.Turns records source visits progress .remainder) :
    (∀ later state turn, visits ≤ later → assembler.Turns records source later state turn →
      turn = .remainder ∧ ∀ front back drawn, assembler.Picks state turn (front ++ back) drawn →
        state.total + (assembler.addPicks state.total front state.deck 0).2 ≤
          assembler.settings.minTotal) ∧
    (∀ later state, visits < later → assembler.Reaches records source later state →
      state.total ≤ assembler.settings.minTotal) ∧
    ∀ deck, (assembler.assemble records source).1 = .ok deck →
      deck.total = assembler.settings.minTotal ∧
        ∃ last, (assembler.fill (start records source)).1 = .ok last ∧
          assembler.trimCopies records last.deck = (0, deck) := by
  -- The first two parts are about the visits behind the turn, and the last one is about the end of them.
  refine ⟨?_, ?_, ?_⟩
  · intro later state turn behind taken
    obtain rfl := phase.remainder slotted behind taken
    exact ⟨rfl, fun front back drawn picked => picked.total_le taken.missing⟩
  · intro later state behind reached
    exact phase.total_le slotted behind reached
  · intro deck assembled
    obtain ⟨last, filled, rfl⟩ := assemble_ok assembled
    obtain ⟨final, behind, reached⟩ := phase.exists_later filled
    -- The last state has the smallest size at least, and it is behind a turn of the remainder slot.
    have enough := (fill_ok filled).2
    have few := phase.total_le slotted behind reached
    rw [reached.sound.stocked.tally] at enough few
    have whole := assembler.trimCopies_of_le records few
    have kept : assembler.trimmed records last.deck = last.deck := congrArg Prod.snd whole
    rw [kept]
    exact ⟨Nat.le_antisymm few enough, last, filled, whole⟩

/-- The remainder slot adds the two copies that are missing, one of them a second copy, and no more, though
its own quantity is larger and the deck has room for more. -/
theorem remainder_fills_exactly_filling :
    (filling.assemble [bare 1, bare 2] (.ofSeed 0)).1 = .ok (.ofEntries [⟨⟨1⟩, 2⟩, ⟨⟨2⟩, 1⟩]) ∧
      Deck.total (.ofEntries [⟨⟨1⟩, 2⟩, ⟨⟨2⟩, 1⟩]) = 3 := by
  -- The remainder slot scores nothing, so the two copies it is asked for come from the front of the pool.
  have two := (filling.slotFor .remainder).selectCount_unscored rfl rfl rfl (by decide)
    filling.settings.caseMode [bare 1, bare 2] 2 (.ofSeed 0)
  have added : filling.Picks
      ⟨[bare 1, bare 2], .ofEntries [⟨⟨1⟩, 1⟩], 1, some (.slot 1), 0, .ofSeed 0⟩ .remainder
      [bare 1, bare 2] (.ofSeed 0) := .active rfl rfl two
  have last := turns_filling.reached.visit (by decide) (by decide) added.visit
  -- With these copies the deck has its smallest size, so no further visit takes place.
  have assembled : (filling.assemble [bare 1, bare 2] (.ofSeed 0)).1 =
      .ok (.ofEntries [⟨⟨1⟩, 2⟩, ⟨⟨2⟩, 1⟩]) := by
    rw [assemble_eq (by decide) (by decide), ← last.fill_eq, fill, Progress.repeatVisits,
      if_pos (by decide)]
    rfl
  obtain ⟨-, -, sized⟩ := remainder_fills_exactly (by decide) turns_filling
  exact ⟨assembled, (sized _ assembled).1⟩

end Decksmith.Assembler
