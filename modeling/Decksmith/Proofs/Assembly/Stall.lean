import Decksmith.Proofs.Assembly.Sound

/-! How long an assembly lasts, and what has happened when it stalls. -/

namespace Decksmith.Assembler

variable {assembler : Assembler} {records : List Record} {source : Random.Source}

/-- Picks whose cards are all at the copy limit change nothing. -/
theorem addPicks_capped (assembler : Assembler) (total : Nat) {picks : List Record} {deck : Deck}
    (capped : ∀ record ∈ picks, assembler.isCapped deck record.id = true) (added : Nat) :
    assembler.addPicks total picks deck added = (deck, added) := by
  -- Pick by pick nothing happens: there is no room for it, or its card is at the limit.
  induction picks with
  | nil => rfl
  | cons record others ih =>
    obtain ⟨here, later⟩ := List.forall_mem_cons.mp capped
    by_cases full : assembler.settings.maxTotal ≤ total + added
    · rw [addPicks, if_pos full]
    · rw [addPicks, if_neg full, if_pos here, ih later]

/-- While there is room, a visit adds nothing only if all that it picks is at the copy limit. -/
theorem capped_of_addPicks {total : Nat} {picks : List Record} {deck : Deck}
    (room : total < assembler.settings.maxTotal)
    (nothing : (assembler.addPicks total picks deck 0).2 = 0) :
    ∀ record ∈ picks, assembler.isCapped deck record.id = true := by
  -- The induction goes along the picks, as long as none of them has been added.
  induction picks with
  | nil => simp
  | cons record others ih =>
    rw [addPicks, if_neg (by omega)] at nothing
    split at nothing
    · rename_i capped
      exact List.forall_mem_cons.mpr ⟨capped, ih nothing⟩
    · -- The first card below its limit would have been added, and the count never falls.
      have counted := assembler.le_addPicks total others (deck.add record.id 1) (0 + 1)
      omega

/-- The states of an assembly after some visits in a row that have added nothing: the slot stayed inactive,
or it picked nothing, or only cards at the copy limit. -/
inductive Idles (assembler : Assembler) (records : List Record) (source : Random.Source) :
    Nat → Progress → Prop where
  | reached {visits : Nat} {progress : Progress}
      (reached : assembler.Reaches records source visits progress) :
      Idles assembler records source 0 progress
  | visit {count : Nat} {progress : Progress} {turn : Turn} {picks : List Record}
      {drawn : Random.Source} (earlier : Idles assembler records source count progress)
      (missing : progress.total < assembler.settings.minTotal)
      (patient : progress.fruitless < assembler.settings.maxIterations)
      (picked : assembler.Picks progress turn picks drawn)
      (capped : ∀ record ∈ picks, assembler.isCapped progress.deck record.id = true) :
      Idles assembler records source (count + 1) (progress.after
        ⟨assembler.openPool progress.deck progress.pool, turn, progress.deck, 0⟩ drawn)

/-- Visits that add nothing lead from states of the assembly to states of the assembly. -/
theorem Idles.reaches {count : Nat} {progress : Progress}
    (idle : assembler.Idles records source count progress) :
    ∃ visits, assembler.Reaches records source visits progress := by
  -- Every idle visit is a visit of the assembly, one that leaves the deck alone.
  induction idle with
  | reached reached => exact ⟨_, reached⟩
  | visit _ missing patient picked capped ih =>
    obtain ⟨visits, reached⟩ := ih
    have visited := picked.visit
    rw [assembler.addPicks_capped _ capped] at visited
    exact ⟨visits + 1, reached.visit missing patient visited⟩

/-- The visits in a row that have added nothing have been counted. -/
theorem Idles.le_fruitless {count : Nat} {progress : Progress}
    (idle : assembler.Idles records source count progress) : count ≤ progress.fruitless := by
  -- The count rises with every idle visit, and nothing in between sets it back.
  induction idle with
  | reached _ => exact Nat.zero_le _
  | visit _ _ _ _ _ ih => exact Nat.succ_le_succ ih

/-- What holds of the count of visits that have added nothing. -/
structure Counted (assembler : Assembler) (records : List Record) (source : Random.Source)
    (visits : Nat) (progress : Progress) : Prop where
  few : progress.fruitless ≤ assembler.settings.maxIterations
  /-- The count tells how many of the last visits have added nothing. -/
  idle : assembler.settings.minTotal ≤ assembler.settings.maxTotal →
    assembler.Idles records source progress.fruitless progress
  /-- Every copy in the deck has cost at most as many visits as may add nothing in a row. -/
  visits_le : visits ≤ progress.total * assembler.settings.maxIterations + progress.fruitless

/-- The count is right in every state of an assembly. -/
theorem Reaches.counted {visits : Nat} {progress : Progress}
    (reached : assembler.Reaches records source visits progress) :
    assembler.Counted records source visits progress := by
  -- The induction is on the visits. Each either adds to the count or sets it back, and the rest of the statement
  -- follows.
  induction reached with
  | start => exact ⟨Nat.zero_le _, fun _ => .reached .start, Nat.zero_le _⟩
  | @visit visits progress done drawn earlier missing patient visited ih =>
    by_cases none : done.added = 0
    · -- The deck is as it was, and one more visit counts.
      refine ⟨?_, fun ordered => ?_, ?_⟩
      · simp only [Progress.after, none, if_true]
        omega
      · obtain ⟨turn, picks, picked, rfl⟩ := visit_picks visited
        have capped := capped_of_addPicks (by omega) none
        have idle := Idles.visit (ih.idle ordered) missing patient picked capped
        rw [assembler.addPicks_capped _ capped]
        exact idle
      · have := ih.visits_le
        simp only [Progress.after, none, if_true, Nat.add_zero]
        omega
    · -- A copy has been added, and the count starts again.
      have again : (progress.after done drawn).fruitless = 0 := by simp [Progress.after, none]
      refine ⟨by omega, fun _ => ?_, ?_⟩
      · rw [again]
        exact .reached (earlier.visit missing patient visited)
      · -- The visits up to here are paid for by the copies so far and one of those that are new.
        have bound : (progress.total + 1) * assembler.settings.maxIterations ≤
            (progress.after done drawn).total * assembler.settings.maxIterations := by
          refine Nat.mul_le_mul_right _ ?_
          simp only [Progress.after]
          omega
        have := ih.visits_le
        rw [Nat.succ_mul] at bound
        omega

/-- Where one more visit starts, the visits up to there leave room for it: no more start than copies are wanted, times
the visits in a row that may add nothing. -/
theorem Reaches.visits_lt {visits : Nat} {progress : Progress}
    (reached : assembler.Reaches records source visits progress)
    (missing : progress.total < assembler.settings.minTotal)
    (patient : progress.fruitless < assembler.settings.maxIterations) :
    visits + 1 ≤ assembler.settings.minTotal * assembler.settings.maxIterations := by
  -- A copy is missing, and it may cost as many visits in vain as are allowed in a row.
  have wanted : (progress.total + 1) * assembler.settings.maxIterations ≤
      assembler.settings.minTotal * assembler.settings.maxIterations :=
    Nat.mul_le_mul_right _ missing
  have := reached.counted.visits_le
  rw [Nat.succ_mul] at wanted
  omega

/-- The visits that have come to an end are no more than those that have started. -/
theorem Reaches.visits_le {visits : Nat} {progress : Progress}
    (reached : assembler.Reaches records source visits progress) :
    visits ≤ assembler.settings.minTotal * assembler.settings.maxIterations := by
  cases reached with
  | start => exact Nat.zero_le _
  | visit earlier missing patient _ => exact earlier.visits_lt missing patient

/-- After as many visits in a row as may add nothing, the assembly stalls. -/
theorem Idles.fill_eq {last : Progress}
    (idle : assembler.Idles records source assembler.settings.maxIterations last)
    (missing : last.total < assembler.settings.minTotal) :
    (assembler.fill (start records source)).1 = .error (.unsatisfiable
      assembler.settings.maxIterations last.total assembler.settings.minTotal) := by
  obtain ⟨visits, reached⟩ := idle.reaches
  -- The count is at most the limit, and at least the number of idle visits, which is the limit.
  have few := reached.counted.few
  have many := idle.le_fruitless
  have exhausted : last.fruitless = assembler.settings.maxIterations := by omega
  rw [← reached.fill_eq, fill, Progress.repeatVisits, if_neg (by omega), if_pos (by omega), exhausted]

/-- A filling stalls only after as many visits in a row as may add nothing. -/
theorem exists_idles_of_fill (ordered : assembler.settings.minTotal ≤ assembler.settings.maxTotal)
    {iterations total minTotal : Nat}
    (stalled : (assembler.fill (start records source)).1 =
      .error (.unsatisfiable iterations total minTotal)) :
    iterations = assembler.settings.maxIterations ∧ minTotal = assembler.settings.minTotal ∧
      total < minTotal ∧ ∃ last, assembler.Idles records source iterations last ∧
        last.deck.total = total := by
  obtain ⟨visits, last, reached, ends⟩ := assembler.fill_ends records source
  generalize assembler.fill (start records source) = outcome at stalled ends
  -- Of the three ends only one is a stall.
  cases ends with
  | filled _ => cases stalled
  | failed _ _ => cases stalled
  | stalled missing exhausted =>
    cases stalled
    -- The stall was reported because the count is no longer below the limit, and it never exceeds it.
    have few := reached.counted.few
    refine ⟨by omega, rfl, missing, last, reached.counted.idle ordered, ?_⟩
    exact reached.sound.stocked.tally.symm

/-- An invalid setup is reported as such, so an assembly that stalls has started from a valid one. -/
theorem valid_of_unsatisfiable {iterations total minTotal : Nat}
    (stalled : (assembler.assemble records source).1 =
      .error (.unsatisfiable iterations total minTotal)) :
    assembler.slots ≠ [] ∧ assembler.settings.minTotal ≤ assembler.settings.maxTotal := by
  -- Both faults of a setup are reported before the first visit.
  constructor
  · intro none
    simp [assemble, none] at stalled
  · by_contra inverted
    unfold assemble at stalled
    simp only [Nat.not_le.mp inverted, if_true] at stalled
    split at stalled
    · cases stalled
    · cases stalled

/-- Every assembly ends, after a number of visits that its settings bound, among them a last one that fails. It is
unsatisfiable exactly when it lacks copies after as many visits in a row as may add nothing, and then the report
tells how many these are and how many copies the deck has. -/
theorem assemble_ends_or_stalls (assembler : Assembler) (records : List Record)
    (source : Random.Source) :
    (∃ visits last, assembler.Reaches records source visits last ∧
      assembler.Ends last (assembler.fill (start records source))) ∧
    (∀ visits progress, assembler.Reaches records source visits progress →
      visits ≤ assembler.settings.minTotal * assembler.settings.maxIterations ∧
      (progress.total < assembler.settings.minTotal →
        progress.fruitless < assembler.settings.maxIterations →
        visits + 1 ≤ assembler.settings.minTotal * assembler.settings.maxIterations)) ∧
    ∀ iterations total minTotal,
      (assembler.assemble records source).1 = .error (.unsatisfiable iterations total minTotal) ↔
        (assembler.slots ≠ [] ∧ assembler.settings.minTotal ≤ assembler.settings.maxTotal) ∧
        iterations = assembler.settings.maxIterations ∧ minTotal = assembler.settings.minTotal ∧
        total < minTotal ∧
        ∃ last, assembler.Idles records source iterations last ∧ last.deck.total = total := by
  refine ⟨assembler.fill_ends records source, fun visits progress reached => ⟨reached.visits_le, reached.visits_lt⟩,
    fun iterations total minTotal => ⟨fun stalled => ?_, ?_⟩⟩
  · obtain ⟨slotted, ordered⟩ := valid_of_unsatisfiable stalled
    rw [assemble_eq slotted ordered] at stalled
    -- The trim fails nowhere, so it is the filling that has stalled.
    cases filled : (assembler.fill (start records source)).1 with
    | ok last => rw [filled] at stalled; cases stalled
    | error fault =>
      rw [filled] at stalled
      cases stalled
      exact ⟨⟨slotted, ordered⟩, exists_idles_of_fill ordered filled⟩
  -- The other way round, the last idle state fixes what the filling reports.
  · rintro ⟨⟨slotted, ordered⟩, rfl, rfl, missing, last, idle, rfl⟩
    obtain ⟨visits, reached⟩ := idle.reaches
    rw [← reached.sound.stocked.tally] at missing ⊢
    rw [assemble_eq slotted ordered, idle.fill_eq missing]
    rfl

/-- An assembler that wants two copies, allows one of each card, and may visit in vain twice in a row. -/
def undersupplied : Assembler where
  settings := { minTotal := 2, maxTotal := 2, copyThreshold := 1, maxIterations := 2 }
  slots := [{ policy := .mostPoints }]

/-- The first visit adds the only card, and the two visits behind it find nothing more to pick. -/
theorem assemble_undersupplied :
    (undersupplied.assemble [bare 1] (.ofSeed 0)).1 = .error (.unsatisfiable 2 1 2) := by
  -- The slot scores nothing, so it picks from the front of whatever pool it is given.
  have select := fun pool => (undersupplied.slotFor (.slot 0)).select_unscored rfl rfl rfl rfl
    (by decide) undersupplied.settings.caseMode pool (some 2) (.ofSeed 0)
  have first : undersupplied.Picks (start [bare 1] (.ofSeed 0)) (.slot 0) [bare 1] (.ofSeed 0) :=
    .active rfl rfl (select (undersupplied.openPool .empty [bare 1]))
  have one := Reaches.start.visit (by decide) (by decide) first.visit
  -- From then on the pool is empty.
  have nothing : (undersupplied.slotFor (.slot 0)).select undersupplied.settings.caseMode []
      (some 2) (.ofSeed 0) = (.ok [], .ofSeed 0) := select []
  have two := (Idles.reached one).visit (by decide) (by decide) (.active rfl rfl nothing) (by simp)
  have three := two.visit (by decide) (by decide) (.active rfl rfl nothing) (by simp)
  exact ((assemble_ends_or_stalls undersupplied [bare 1] (.ofSeed 0)).2.2 2 1 2).mpr
    ⟨⟨by decide, by decide⟩, rfl, rfl, by decide, _, three, rfl⟩

end Decksmith.Assembler
