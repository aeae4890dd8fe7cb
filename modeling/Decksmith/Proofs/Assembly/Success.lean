import Decksmith.Proofs.Assembly.CopyLimit

/-! Slots that always pick stop only at the smallest size or when every card is at its copy limit. -/

namespace Decksmith

/-- A slot that runs at every turn and picks whatever is left. -/
structure Slot.Eager (slot : Slot) : Prop where
  byPoints : slot.policy = .mostPoints
  certain : slot.activationChance ≥ 1.0
  unrestricted : slot.blacklist = []
  some : ∃ min max, slot.quantity = .fixed min max ∧ 1 ≤ min ∧ min ≤ max

/-- An eager slot that is given records picks some of them. -/
theorem Slot.Eager.selectCount {slot : Slot} (eager : slot.Eager) (mode : CaseMode)
    (records : List Record) {count : Nat} (positive : 0 < count) (source : Random.Source) :
    ∃ picks rest, slot.selectCount mode records count source = (.ok picks, rest) ∧
      picks ⊆ records ∧ (records ≠ [] → picks ≠ []) := by
  obtain ⟨picks, rest, selected, counted⟩ :=
    Slot.selectCount_mostPoints eager.byPoints mode records count source
  -- Without a blacklist every record is eligible.
  have all : slot.eligible records = records := by simp [Slot.eligible, eager.unrestricted]
  have within := Slot.selectCount_subset selected
  rw [all] at counted within
  refine ⟨picks, rest, selected, within, fun given none => ?_⟩
  -- As many are picked as are there, up to a count that is positive.
  have := List.length_pos_of_ne_nil given
  rw [none, List.length_nil] at counted
  omega

/-- An eager slot that draws its quantity and is given records picks some of them. -/
theorem Slot.Eager.select {slot : Slot} (eager : slot.Eager) (mode : CaseMode)
    (records : List Record) (deckSize : Option Nat) (source : Random.Source) :
    ∃ picks rest, slot.select mode records deckSize source = (.ok picks, rest) ∧
      picks ⊆ records ∧ (records ≠ [] → picks ≠ []) := by
  obtain ⟨low, high, quantity, positive, ordered⟩ := eager.some
  have drawn : slot.quantity.resolve deckSize source =
      (.ok (source.between low high).1, (source.between low high).2) := by
    simp [quantity, Quantity.resolve, Nat.not_lt.mpr ordered]
  -- Whatever is drawn is no smaller than the lower bound, which is positive.
  have least := source.le_between low high
  unfold Slot.select
  rw [drawn]
  exact eager.selectCount mode records (by omega) _

namespace Assembler

variable {assembler : Assembler} {records : List Record} {source : Random.Source}

/-- An assembler that can start, tries at least once, and has eager slots only. -/
structure Eager (assembler : Assembler) : Prop where
  slotted : assembler.slots ≠ []
  slots : ∀ slot ∈ assembler.slots, slot.Eager
  remainder : ∀ slot ∈ assembler.remainder, slot.Eager
  ordered : assembler.settings.minTotal ≤ assembler.settings.maxTotal
  patient : 1 ≤ assembler.settings.maxIterations

/-- Whether some records are enough for the smallest size under the copy limit. -/
def Suffices (assembler : Assembler) (records : List Record) : Prop :=
  assembler.settings.minTotal = 0 ∨
    (assembler.settings.copyThreshold = 0 ∧ records ≠ []) ∨
    (0 < assembler.settings.copyThreshold ∧
      assembler.settings.minTotal ≤ assembler.capacity records)

/-- Whichever policy decides, an eager slot has its turn. -/
theorem Eager.slotFor (eager : assembler.Eager) (last : Option Turn) (source : Random.Source) :
    (assembler.slotFor (assembler.nextTurn last source).1).Eager := by
  rcases List.mem_append.mp (slotFor_mem eager.slotted last source) with ordinary | remaining
  · exact eager.slots _ ordinary
  · exact eager.remainder _ (Option.mem_toList.mp remaining)

/-- While copies are missing and a card is below its limit, a visit adds a copy; it adds none only when
every card is at its limit, and then it leaves the deck as it was. -/
theorem Eager.visit (eager : assembler.Eager) {progress : Progress}
    (missing : progress.total < assembler.settings.minTotal) :
    ∃ done drawn, assembler.visit progress = (.ok done, drawn) ∧
      (done.added = 0 → assembler.openPool progress.deck progress.pool = [] ∧
        done.deck = progress.deck) := by
  have ordered := eager.ordered
  obtain ⟨turn, turned⟩ : ∃ turn, assembler.nextTurn progress.last progress.source = turn := ⟨_, rfl⟩
  have slot := eager.slotFor progress.last progress.source
  rw [turned] at slot
  -- A slot that is certain to run draws nothing.
  have active : (assembler.slotFor turn.1).activates turn.2 = (true, turn.2) := by
    simp [Slot.activates, slot.certain]
  -- The remainder slot picks what is missing, and the others draw how many they pick.
  have picked : ∃ picks drawn, assembler.picksFor turn.1 (assembler.slotFor turn.1)
      (assembler.openPool progress.deck progress.pool)
      (assembler.settings.minTotal - progress.total) turn.2 = (.ok picks, drawn) ∧
      picks ⊆ assembler.openPool progress.deck progress.pool ∧
      (assembler.openPool progress.deck progress.pool ≠ [] → picks ≠ []) := by
    unfold picksFor
    split
    · exact slot.selectCount _ _ (by omega) _
    · exact slot.select _ _ _ _
  obtain ⟨picks, drawn, picked, within, some⟩ := picked
  refine ⟨_, _, visit_of_picks progress turned active picked, fun nothing => ?_⟩
  cases picks with
  | nil => exact ⟨by_contra fun given => some given rfl, rfl⟩
  | cons first others =>
    -- The first pick is below its limit, so it has been added.
    have uncapped : assembler.isCapped progress.deck first.id = false := by
      simpa [openPool] using List.of_mem_filter (within (List.mem_cons_self ..))
    have grown : 1 ≤ (assembler.addPicks progress.total (first :: others) progress.deck 0).2 := by
      rw [addPicks, if_neg (by omega), uncapped]
      exact assembler.le_addPicks progress.total others _ 1
    exact absurd nothing (Nat.ne_of_gt grown)

/-- What holds of the visits in a row that have added nothing. -/
structure Stalling (assembler : Assembler) (records : List Record) (progress : Progress) : Prop where
  few : progress.fruitless ≤ assembler.settings.maxIterations
  /-- After such a visit every card is at its limit. -/
  full : 0 < progress.fruitless → assembler.openPool progress.deck records = []

/-- Eager slots stall only when every card is at its limit. -/
theorem Reaches.stalling (eager : assembler.Eager) {visits : Nat} {progress : Progress}
    (reached : assembler.Reaches records source visits progress) :
    assembler.Stalling records progress := by
  induction reached with
  -- Before the first visit none has added nothing.
  | start => exact ⟨Nat.zero_le _, fun some => absurd some (Nat.lt_irrefl 0)⟩
  | @visit _ progress done drawn earlier missing patient visited ih =>
    obtain ⟨_, _, same, nothing⟩ := eager.visit missing
    rw [visited] at same
    obtain ⟨⟨⟩, -⟩ := same
    by_cases none : done.added = 0
    · -- The deck is the one from before the visit, and its open pool was empty already.
      obtain ⟨empty, unchanged⟩ := nothing none
      rw [earlier.sound.current] at empty
      refine ⟨?_, fun _ => ?_⟩
      · simp only [Progress.after, none, if_true]
        omega
      · simpa only [Progress.after, unchanged] using empty
    -- A visit that adds a copy starts the count again.
    · refine ⟨?_, fun some => ?_⟩
      · simp [Progress.after, none]
      · simp [Progress.after, none] at some

/-- A deck with every card at its limit has as many copies as the capacity of the records. -/
theorem Stocked.eq_capacity {deck : Deck} {total : Nat} (stocked : assembler.Stocked records deck total)
    (full : assembler.openPool deck records = []) : total = assembler.capacity records := by
  have capped : ∀ record ∈ records, 0 < assembler.settings.copyThreshold ∧
      assembler.settings.copyThreshold ≤ deck.quantity record.id := by
    simpa [openPool, isCapped, Nat.pos_iff_ne_zero] using full
  rcases Nat.eq_zero_or_pos assembler.settings.copyThreshold with unlimited | limited
  · -- Without a limit no card can be at it, so there is none.
    have none : records = [] := List.eq_nil_iff_forall_not_mem.mpr fun record member => by
      have := (capped record member).1
      omega
    have bare : deck.cards = [] := by simpa [none] using stocked.known
    rw [stocked.tally, Deck.total_eq_sum_quantity stocked.formed, bare]
    simp [capacity, none]
  -- Under a limit, every card of the records is in the deck that many times, and no other card is.
  · refine Nat.le_antisymm (stocked.le_capacity limited) ?_
    rw [stocked.tally]
    exact Deck.le_total_of_full stocked.formed limited
      (by simpa using fun record member => (capped record member).2)

/-- With eager slots, the visits end with a filled deck exactly when the records suffice for one, and
otherwise with all copies that the limit allows. -/
theorem Eager.fill (eager : assembler.Eager) (records : List Record) (source : Random.Source) :
    (assembler.Suffices records ∧
      ∃ last, (assembler.fill (start records source)).1 = .ok last) ∨
    (¬ assembler.Suffices records ∧ (assembler.fill (start records source)).1 =
      .error (.unsatisfiable assembler.settings.maxIterations (assembler.capacity records)
        assembler.settings.minTotal)) := by
  obtain ⟨visits, last, reached, ends⟩ := assembler.fill_ends records source
  have stocked := reached.sound.stocked
  obtain ⟨few, full⟩ := reached.stalling eager
  generalize assembler.fill (start records source) = outcome at ends
  cases ends with
  -- The size is reached, so that many copies fit under the limit.
  | filled enough =>
    refine .inl ⟨?_, last, rfl⟩
    rcases Nat.eq_zero_or_pos assembler.settings.copyThreshold with unlimited | limited
    · -- Without any record the deck is empty, so nothing was wanted.
      by_cases given : records = []
      · have everything := stocked.eq_capacity (by simp [given, openPool])
        rw [capacity, unlimited, Nat.mul_zero] at everything
        exact .inl (by omega)
      · exact .inr (.inl ⟨unlimited, given⟩)
    · exact .inr (.inr ⟨limited, enough.trans (stocked.le_capacity limited)⟩)
  | stalled missing exhausted =>
    have patient := eager.patient
    -- The last visit has added nothing, so every card is at its limit.
    have everything := stocked.eq_capacity (full (by omega))
    have tries : last.fruitless = assembler.settings.maxIterations := by omega
    refine .inr ⟨?_, by rw [tries, everything]⟩
    rintro (none | ⟨unlimited, given⟩ | ⟨limited, enough⟩)
    · omega
    · -- Without a limit every record stays in the open pool.
      have := full (by omega)
      simp [openPool, isCapped, unlimited, given] at this
    · omega
  | failed missing visited =>
    -- An eager slot never fails.
    obtain ⟨_, _, succeeded, -⟩ := eager.visit missing
    rw [visited] at succeeded
    simp at succeeded

/-- Assembling from a valid setup fills a deck and trims it. -/
theorem Eager.assemble (eager : assembler.Eager) (records : List Record) (source : Random.Source) :
    (assembler.assemble records source).1 =
      (assembler.fill (start records source)).1.map fun last =>
        assembler.trimmed records last.deck :=
  assemble_eq eager.slotted eager.ordered records source

/-- With eager slots, a deck is assembled exactly when the records suffice for one under the copy limit,
and otherwise the assembly stalls with every card at that limit. -/
theorem assemble_ok_iff_suffices (eager : assembler.Eager) (records : List Record)
    (source : Random.Source) :
    ((∃ deck, (assembler.assemble records source).1 = .ok deck) ↔ assembler.Suffices records) ∧
      (¬ assembler.Suffices records → (assembler.assemble records source).1 =
        .error (.unsatisfiable assembler.settings.maxIterations (assembler.capacity records)
          assembler.settings.minTotal)) := by
  -- The trim fails nowhere, so it is enough to look at the visits.
  rw [eager.assemble]
  rcases eager.fill records source with ⟨ample, last, filled⟩ | ⟨scarce, stalled⟩
  · rw [filled]
    exact ⟨⟨fun _ => ample, fun _ => ⟨_, rfl⟩⟩, fun scarce => absurd ample scarce⟩
  · rw [stalled]
    refine ⟨⟨fun ⟨_, assembled⟩ => ?_, fun ample => absurd ample scarce⟩, fun _ => rfl⟩
    cases assembled

/-- An assembler that wants two copies where a single card may have only one. -/
def overdemanding : Assembler where
  settings := { minTotal := 2, maxTotal := 2, copyThreshold := 1, maxIterations := 3 }
  slots := [{ policy := .mostPoints }]

/-- Two records of one card leave room for one copy, and the assembly stalls with it. -/
theorem assemble_overdemanding :
    (overdemanding.assemble [bare 1, bare 1] (.ofSeed 0)).1 = .error (.unsatisfiable 3 1 2) := by
  have certain : (1.0 : Float) ≥ 1.0 := by decide
  -- The only slot is certain to run and asks for one record at a time.
  have eager : overdemanding.Eager :=
    ⟨by simp [overdemanding],
      by simpa [overdemanding] using ⟨rfl, certain, rfl, 1, 1, rfl, by decide, by decide⟩,
      by simp [overdemanding], by decide, by decide⟩
  have room : overdemanding.capacity [bare 1, bare 1] = 1 := by decide
  refine (assemble_ok_iff_suffices eager [bare 1, bare 1] (.ofSeed 0)).2 ?_
  -- One copy is less than two, and neither of the other conditions holds either.
  rintro (none | ⟨unlimited, -⟩ | ⟨-, enough⟩)
  · simp [overdemanding] at none
  · simp [overdemanding] at unlimited
  · rw [room] at enough
    simp [overdemanding] at enough

end Assembler

end Decksmith
