import Decksmith.Proofs.Assembly.Run

/-! Whose turn it is at every visit of an assembly, as the policy has it. -/

namespace Decksmith.Assembler

variable {assembler : Assembler} {records : List Record} {source : Random.Source}

/-- An assembly makes a visit: so many others have come before it, copies are missing, and the visits in vain
have not been too many. The visit counts whether or not its slot is active and can pick. -/
structure Turns (assembler : Assembler) (records : List Record) (source : Random.Source)
    (visits : Nat) (progress : Progress) (turn : Turn) : Prop where
  reached : assembler.Reaches records source visits progress
  missing : progress.total < assembler.settings.minTotal
  patient : progress.fruitless < assembler.settings.maxIterations
  next : (assembler.nextTurn progress.last progress.source).1 = turn

/-- Whether the remainder slot has every turn once the others have had theirs. -/
def fillsRemaining (assembler : Assembler) : Bool :=
  assembler.settings.iterationPolicy = .sequentialFillRemaining && assembler.remainder.isSome

/-- The turn behind a number of visits in sequence. -/
def turnAt (assembler : Assembler) (visits : Nat) : Turn :=
  -- Without a remainder slot the round starts again behind the last slot.
  if assembler.fillsRemaining && assembler.slots.length ≤ visits then .remainder
  else .slot (visits % assembler.slots.length)

/-- As long as the remainder slot has no turn, the slots take theirs in rounds. -/
theorem turnAt_slot {visits : Nat}
    (round : assembler.fillsRemaining = true → visits < assembler.slots.length) :
    assembler.turnAt visits = .slot (visits % assembler.slots.length) := by
  unfold turnAt
  -- Either nothing is filled up, or the first round is not over.
  cases fills : assembler.fillsRemaining with
  | false => simp
  | true =>
    have within := round fills
    simp only [Bool.true_and, decide_eq_true_eq, if_neg (Nat.not_le.mpr within)]

/-- Behind a slot comes the one next to it, and behind the last one the remainder slot or the first one. -/
theorem turnAfter_slot (assembler : Assembler) (index : Nat) :
    assembler.turnAfter (some (.slot index)) =
      if index + 1 < assembler.slots.length then .slot (index + 1)
      else if assembler.fillsRemaining then .remainder
      else .slot 0 := rfl

/-- The first turn in sequence is that of the first slot. -/
theorem turnAfter_none (slotted : assembler.slots ≠ []) :
    assembler.turnAfter none = assembler.turnAt 0 := by
  -- The first round cannot be over before it has started.
  have positive : 0 < assembler.slots.length := List.length_pos_of_ne_nil slotted
  rw [turnAt_slot fun _ => positive]
  simp [turnAfter, positive]

/-- Every turn in sequence leads to the next one. -/
theorem turnAfter_turnAt (slotted : assembler.slots ≠ []) (visits : Nat) :
    assembler.turnAfter (some (assembler.turnAt visits)) = assembler.turnAt (visits + 1) := by
  have positive : 0 < assembler.slots.length := List.length_pos_of_ne_nil slotted
  by_cases filling : assembler.fillsRemaining = true ∧ assembler.slots.length ≤ visits
  · -- The remainder slot keeps its turn.
    obtain ⟨fills, beyond⟩ := filling
    have further : assembler.slots.length ≤ visits + 1 := Nat.le_succ_of_le beyond
    simp [turnAt, turnAfter, fills, beyond, further]
  · have round : assembler.fillsRemaining = true → visits < assembler.slots.length := by
      intro fills
      by_contra beyond
      exact filling ⟨fills, Nat.le_of_not_lt beyond⟩
    rw [turnAt_slot round, turnAfter_slot]
    -- The number of the next slot is one higher, unless that ends the round.
    have within : visits % assembler.slots.length < assembler.slots.length := Nat.mod_lt _ positive
    have next : (visits + 1) % assembler.slots.length =
        (visits % assembler.slots.length + 1) % assembler.slots.length := by
      rw [Nat.mod_add_mod]
    by_cases inside : visits % assembler.slots.length + 1 < assembler.slots.length
    · rw [if_pos inside, turnAt_slot, next, Nat.mod_eq_of_lt inside]
      -- In the first round the number of the visit is that of the slot.
      intro fills
      rw [Nat.mod_eq_of_lt (round fills)] at inside
      exact inside
    · have last : visits % assembler.slots.length + 1 = assembler.slots.length := by omega
      rw [if_neg inside]
      cases fills : assembler.fillsRemaining with
      | true =>
        -- The first round ends here, so the remainder slot comes next.
        rw [Nat.mod_eq_of_lt (round fills)] at last
        simp [turnAt, fills, last]
      | false =>
        rw [turnAt_slot (by simp [fills]), next, last, Nat.mod_self]
        simp

/-- A visit that comes about has had the next turn. -/
theorem turn_of_visit {progress : Progress} {done : Visit} {drawn : Random.Source}
    (visited : assembler.visit progress = (.ok done, drawn)) :
    done.turn = (assembler.nextTurn progress.last progress.source).1 := by
  -- The turn is drawn first, and what the slot does with it changes nothing about it.
  obtain ⟨turn, picks, picked, rfl⟩ := visit_picks visited
  cases picked with
  | inactive next _ => rw [next]
  | active next _ _ => rw [next]

/-- In sequence nothing is drawn for the turn. -/
theorem nextTurn_sequential (sequential : assembler.settings.iterationPolicy ≠ .random)
    (last : Option Turn) (source : Random.Source) :
    assembler.nextTurn last source = (assembler.turnAfter last, source) := by
  unfold nextTurn
  split
  · rename_i random
    exact absurd random sequential
  · rfl

/-- In sequence the number of the visits so far decides whose turn is next. -/
theorem Reaches.turnAfter_last (slotted : assembler.slots ≠ [])
    (sequential : assembler.settings.iterationPolicy ≠ .random) {visits : Nat} {progress : Progress}
    (reached : assembler.Reaches records source visits progress) :
    assembler.turnAfter progress.last = assembler.turnAt visits := by
  -- The induction is on the visits, each of which has the turn behind that of the one before.
  induction reached with
  | start => exact turnAfter_none slotted
  | @visit visits progress done drawn _ _ _ visited ih =>
    have turn := turn_of_visit visited
    rw [nextTurn_sequential sequential, ih] at turn
    show assembler.turnAfter (some done.turn) = assembler.turnAt (visits + 1)
    rw [turn]
    exact turnAfter_turnAt slotted visits

/-- A turn finds its slot: there is a slot with its number, or a remainder slot. -/
def Finds (assembler : Assembler) (turn : Turn) : Prop :=
  match turn with
  | .slot index => assembler.slots[index]? = some (assembler.slotFor turn)
  | .remainder => assembler.remainder = some (assembler.slotFor turn)

/-- The number of a slot finds that slot. -/
theorem finds_slot {index : Nat} (within : index < assembler.slots.length) :
    assembler.Finds (.slot index) := by
  -- A number below the count of the slots is that of one of them.
  simp [Finds, slotFor, List.getElem?_eq_getElem within]

/-- In sequence every turn finds its slot. -/
theorem finds_turnAt (slotted : assembler.slots ≠ []) (visits : Nat) :
    assembler.Finds (assembler.turnAt visits) := by
  have positive : 0 < assembler.slots.length := List.length_pos_of_ne_nil slotted
  unfold turnAt
  split
  · -- The remainder slot has turns only where there is one.
    rename_i filling
    simp only [fillsRemaining, Bool.and_eq_true] at filling
    obtain ⟨slot, given⟩ := Option.isSome_iff_exists.mp filling.1.2
    simp [Finds, slotFor, given]
  · exact finds_slot (Nat.mod_lt _ positive)

/-- In sequence the turn of a visit is the one that its number gives. -/
theorem Turns.eq_turnAt (slotted : assembler.slots ≠ [])
    (sequential : assembler.settings.iterationPolicy ≠ .random) {visits : Nat} {progress : Progress}
    {turn : Turn} (taken : assembler.Turns records source visits progress turn) :
    turn = assembler.turnAt visits := by
  -- The turn was taken in sequence, behind the one that the visits so far lead to.
  rw [← taken.next, nextTurn_sequential sequential]
  exact taken.reached.turnAfter_last slotted sequential

/-- At random the turn is that of a position among the slots, and there always is one. -/
theorem nextTurn_random (slotted : assembler.slots ≠ [])
    (random : assembler.settings.iterationPolicy = .random) (last : Option Turn)
    (source : Random.Source) :
    ∃ index, index < assembler.slots.length ∧
      (source.position? assembler.slots.length).1 = some index ∧
      (assembler.nextTurn last source).1 = .slot index := by
  have positive : 0 < assembler.slots.length := List.length_pos_of_ne_nil slotted
  -- Only an empty list has no position.
  have drawn : (source.position? assembler.slots.length).1 =
      some (source.below assembler.slots.length).1 := by
    simp [Random.Source.position?, Nat.ne_of_gt positive]
  refine ⟨_, source.below_lt positive, drawn, ?_⟩
  simp [nextTurn, random, drawn]

/-- In the order of their numbers the slots have their turns in rounds, unless a remainder slot is there to
fill up: then each of them has one turn, and the remainder slot all that follow. At random it is always
one of the slots, whatever is drawn. No turn misses its slot. -/
theorem turns_scheduled (slotted : assembler.slots ≠ []) {visits : Nat} {progress : Progress}
    {turn : Turn} (taken : assembler.Turns records source visits progress turn) :
    (assembler.settings.iterationPolicy = .sequentialLoopEnd →
      turn = .slot (visits % assembler.slots.length)) ∧
    (assembler.settings.iterationPolicy = .sequentialFillRemaining →
      (assembler.remainder ≠ none →
        (visits < assembler.slots.length → turn = .slot visits) ∧
        (assembler.slots.length ≤ visits → turn = .remainder)) ∧
      (assembler.remainder = none → turn = .slot (visits % assembler.slots.length))) ∧
    (assembler.settings.iterationPolicy = .random →
      ∃ index, index < assembler.slots.length ∧ turn = .slot index ∧
        (progress.source.position? assembler.slots.length).1 = some index) ∧
    assembler.Finds turn := by
  by_cases random : assembler.settings.iterationPolicy = .random
  · -- The other policies are excluded, and the position that is drawn is that of a slot.
    obtain ⟨index, within, drawn, next⟩ := nextTurn_random slotted random progress.last progress.source
    have turn_eq : turn = .slot index := taken.next.symm.trans next
    rw [turn_eq]
    refine ⟨?_, ?_, ?_, finds_slot within⟩
    -- In loops the remainder slot has no turn at all, so the rounds never end.
    · intro loop
      rw [random] at loop
      cases loop
    · intro fill
      rw [random] at fill
      cases fill
    · intro _
      exact ⟨index, within, rfl, drawn⟩
  · -- In sequence the turn is known from the number of the visit.
    have turn_eq := taken.eq_turnAt slotted random
    rw [turn_eq]
    refine ⟨?_, ?_, ?_, finds_turnAt slotted visits⟩
    · intro loop
      -- In loops the remainder slot has no turn at all, so the rounds never end.
      apply turnAt_slot
      simp [fillsRemaining, loop]
    · intro fill
      refine ⟨fun given => ⟨fun within => ?_, fun beyond => ?_⟩, fun none => ?_⟩
      -- In the first round the number of the visit is that of the slot.
      · rw [turnAt_slot fun _ => within, Nat.mod_eq_of_lt within]
      -- Behind the first round every turn is that of the remainder slot.
      · have present := Option.isSome_iff_ne_none.mpr given
        simp [turnAt, fillsRemaining, fill, present, beyond]
      -- Without a remainder slot there is nothing to fill up with, and the rounds go on.
      · apply turnAt_slot
        simp [fillsRemaining, none]
    · intro sure
      exact absurd sure random

/-- An assembler with a slot that never picks, a slot that picks one record at a time, and a remainder slot.
The trim would take whatever is in excess. -/
def filling : Assembler where
  settings :=
    { minTotal := 3, maxTotal := 6, iterationPolicy := .sequentialFillRemaining, trimFraction := 1.0 }
  slots := [{ policy := .mostPoints, quantity := .exactly 0 }, { policy := .mostPoints }]
  remainder := some { policy := .mostPoints, quantity := .exactly 5 }
  trim := some (.test ⟨.name, .none, .notEqual, "a"⟩)

/-- The first slot adds nothing, the second one adds a card, and then it is the turn of the remainder slot. -/
theorem turns_filling :
    filling.Turns [bare 1, bare 2] (.ofSeed 0) 2
      ⟨[bare 1, bare 2], .ofEntries [⟨⟨1⟩, 1⟩], 1, some (.slot 1), 0, .ofSeed 0⟩ .remainder := by
  -- Both slots score nothing, so they pick from the front, and nothing is drawn.
  have none := (filling.slotFor (.slot 0)).select_unscored rfl rfl rfl rfl (by decide)
    filling.settings.caseMode [bare 1, bare 2] (some 3) (.ofSeed 0)
  have one := (filling.slotFor (.slot 1)).select_unscored rfl rfl rfl rfl (by decide)
    filling.settings.caseMode [bare 1, bare 2] (some 3) (.ofSeed 0)
  have idle : filling.Picks (start [bare 1, bare 2] (.ofSeed 0)) (.slot 0) [] (.ofSeed 0) :=
    .active rfl rfl none
  have first := Reaches.start.visit (by decide) (by decide) idle.visit
  have added : filling.Picks ⟨[bare 1, bare 2], .empty, 0, some (.slot 0), 1, .ofSeed 0⟩ (.slot 1)
      [bare 1] (.ofSeed 0) := .active rfl rfl one
  have second := first.visit (by decide) (by decide) added.visit
  exact ⟨second, by decide, by decide, rfl⟩

/-- Both slots have had their turns, the first one in vain, so the third visit is to the remainder slot. -/
theorem turns_scheduled_filling :
    ∃ progress turn, filling.Turns [bare 1, bare 2] (.ofSeed 0) 2 progress turn ∧
      turn = .remainder ∧ filling.Finds turn := by
  -- What is shown holds for any policy, and here the remainder slot has been waiting behind two slots.
  obtain ⟨-, filled, -, finds⟩ := turns_scheduled (by decide) turns_filling
  exact ⟨_, _, turns_filling, ((filled rfl).1 nofun).2 (by decide), finds⟩

end Decksmith.Assembler
