import Decksmith.Proofs.Assembly.Run

/-! Assemblies that leave nothing to chance: they draw nothing, so the randomness does not matter to them. -/

namespace Decksmith

/-- A computation that draws nothing. Its outcome is the same for every source, and the source stays as it
was. -/
def Random.Drawless {α : Type} (compute : Random.Source → α × Random.Source) : Prop :=
  ∃ outcome, ∀ source, compute source = (outcome, source)

/-- A slot that leaves nothing to chance: it runs at every turn, picks a set number of records by the most
points, and has ties decided by the order of the scores or by an attribute. -/
structure Slot.Determined (slot : Slot) : Prop where
  certain : slot.activationChance ≥ 1.0
  exact : ∃ count, slot.quantity = .fixed count count
  byPoints : slot.policy = .mostPoints
  decided : slot.tieThreshold ≤ 0.0 ∨ ∃ key, slot.tieBreak = .ascending key

namespace Slot

/-- Picking from the tied candidates draws nothing where an attribute breaks the ties. -/
theorem pickTied_drawless {slot : Slot} {key : SortKey} (ascending : slot.tieBreak = .ascending key)
    (count : Nat) (order : List Candidate) : Random.Drawless (slot.pickTied count order) := by
  -- Every round takes one of the candidates away, so the order is left general.
  induction count generalizing order with
  | zero => exact ⟨[], fun _ => by rw [pickTied]⟩
  | succ count ih =>
    cases order with
    | nil => exact ⟨[], fun _ => by rw [pickTied]⟩
    | cons best others =>
      -- The values of the attribute alone tell which candidate the tie goes to.
      have broken : ∀ source, slot.breakTie (slot.tied best (best :: others)) source =
          (Candidate.leastIndex ((slot.tied best (best :: others)).map (Candidate.tieValue key)),
            source) := by
        intro source
        simp only [breakTie, ascending]
      obtain ⟨picked, later⟩ := ih ((best :: others).eraseIdx
        (Candidate.leastIndex ((slot.tied best (best :: others)).map (Candidate.tieValue key))))
      refine ⟨(best :: others)[Candidate.leastIndex ((slot.tied best (best :: others)).map
        (Candidate.tieValue key))]?.getD best :: picked, fun source => ?_⟩
      simp only [pickTied, broken, later]

/-- Picking by the most points draws nothing where the ties are decided. -/
theorem Determined.pickMost {slot : Slot} (determined : slot.Determined)
    (candidates : List Candidate) (count : Nat) :
    Random.Drawless (slot.pickMost candidates count) := by
  by_cases ordered : slot.tieThreshold ≤ 0.0
  · -- Without a threshold the order of the scores decides.
    exact ⟨_, fun _ => if_pos ordered⟩
  -- With a threshold an attribute does.
  · obtain ⟨key, ascending⟩ := determined.decided.resolve_left ordered
    obtain ⟨picked, tied⟩ := pickTied_drawless ascending count (Candidate.sorted candidates)
    exact ⟨picked, fun source => (if_neg ordered).trans (tied source)⟩

/-- Such a slot draws nothing to pick a given number of records. -/
theorem Determined.selectCount {slot : Slot} (determined : slot.Determined) (mode : CaseMode)
    (records : List Record) (count : Nat) :
    Random.Drawless (slot.selectCount mode records count) := by
  obtain ⟨picked, most⟩ := determined.pickMost
    (List.zipWith Candidate.mk (slot.eligible records) (slot.scores mode (slot.eligible records))) count
  -- Without candidates or without a count nothing is picked at all.
  by_cases nothing : ((slot.eligible records).isEmpty || decide (count = 0)) = true
  · exact ⟨.ok [], fun _ => if_pos nothing⟩
  · refine ⟨.ok (picked.map Candidate.record), fun source => ?_⟩
    unfold Slot.selectCount
    dsimp only
    rw [if_neg nothing, determined.byPoints]
    dsimp only
    rw [most]

/-- Such a slot draws nothing to find out how many records it picks, and nothing to pick them. -/
theorem Determined.select {slot : Slot} (determined : slot.Determined) (mode : CaseMode)
    (records : List Record) (deckSize : Option Nat) :
    Random.Drawless (slot.select mode records deckSize) := by
  obtain ⟨count, exact⟩ := determined.exact
  obtain ⟨picked, selected⟩ := determined.selectCount mode records count
  -- Between two equal bounds there is no choice.
  have resolved : ∀ source, slot.quantity.resolve deckSize source = (.ok count, source) := by
    intro source
    simp [exact, Quantity.resolve, Random.Source.between]
  refine ⟨picked, fun source => ?_⟩
  rw [Slot.select, resolved]
  exact selected source

end Slot

namespace Progress

/-- How far an assembly has come, with another source of randomness from here on. -/
def reseeded (progress : Progress) (source : Random.Source) : Progress :=
  { progress with source := source }

@[simp] theorem reseeded_total (progress : Progress) (source : Random.Source) :
    (progress.reseeded source).total = progress.total := rfl

@[simp] theorem reseeded_fruitless (progress : Progress) (source : Random.Source) :
    (progress.reseeded source).fruitless = progress.fruitless := rfl

/-- If no visit draws anything, then neither does a repetition of visits. -/
theorem repeatVisits_drawless
    {visit : Progress → Except SelectionError Visit × Random.Source}
    (drawless : ∀ progress : Progress, Random.Drawless fun source => visit (progress.reseeded source))
    (wanted limit : Nat) (progress : Progress) :
    ∃ outcome : Except AssemblyError Progress, ∀ source,
      repeatVisits visit wanted limit (progress.reseeded source) =
        (outcome.map (·.reseeded source), source) := by
  -- A visit from the state with its own source shows what it does with every source.
  have everywhere : ∀ {progress : Progress} {outcome : Except SelectionError Visit}
      {drawn : Random.Source}, visit progress = (outcome, drawn) →
      ∀ source, visit (progress.reseeded source) = (outcome, source) := by
    intro progress outcome drawn visited source
    obtain ⟨only, same⟩ := drawless progress
    have own : visit progress = (only, progress.source) := same progress.source
    rw [visited] at own
    cases own
    exact same source
  -- The induction is that of the repetition, whose conditions do not look at the source.
  induction progress using repeatVisits.induct visit wanted limit with
  | case1 progress enough =>
    refine ⟨.ok progress, fun source => ?_⟩
    rw [repeatVisits, reseeded_total, if_pos enough]
    rfl
  | case2 progress missing exhausted =>
    refine ⟨.error (.unsatisfiable progress.fruitless progress.total wanted), fun source => ?_⟩
    rw [repeatVisits, reseeded_total, if_neg missing, reseeded_fruitless, if_pos exhausted]
    rfl
  | case3 progress missing patient fault drawn visited =>
    refine ⟨.error (.selection fault), fun source => ?_⟩
    rw [repeatVisits, reseeded_total, if_neg missing, reseeded_fruitless, if_neg patient,
      everywhere visited source]
    rfl
  | case4 progress missing patient done drawn visited ih =>
    obtain ⟨outcome, further⟩ := ih
    refine ⟨outcome, fun source => ?_⟩
    rw [repeatVisits, reseeded_total, if_neg missing, reseeded_fruitless, if_neg patient,
      everywhere visited source]
    -- The state behind the visit takes its source from it.
    exact further source

end Progress

namespace Assembler

variable {assembler : Assembler}

/-- An assembler that visits its slots in turn and leaves nothing to chance in any of them. -/
structure Determined (assembler : Assembler) : Prop where
  sequential : assembler.settings.iterationPolicy ≠ .random
  slots : ∀ slot ∈ assembler.allSlots, slot.Determined

/-- A visit of such an assembler draws nothing. -/
theorem Determined.visit (determined : assembler.Determined) (slotted : assembler.slots ≠ [])
    (progress : Progress) :
    Random.Drawless fun source => assembler.visit (progress.reseeded source) := by
  -- The turn before decides whose turn it is.
  have next : ∀ source, assembler.nextTurn progress.last source =
      (assembler.turnAfter progress.last, source) := by
    intro source
    unfold nextTurn
    split
    · rename_i random
      exact absurd random determined.sequential
    · rfl
  have slot : (assembler.slotFor (assembler.turnAfter progress.last)).Determined := by
    have listed := slotFor_mem slotted progress.last progress.source
    rw [next] at listed
    exact determined.slots _ listed
  -- The slot is certain to run, so nothing is drawn for that either.
  have active : ∀ source, (assembler.slotFor (assembler.turnAfter progress.last)).activates source =
      (true, source) := by
    intro source
    simp [Slot.activates, slot.certain]
  have picked : Random.Drawless (assembler.picksFor (assembler.turnAfter progress.last)
      (assembler.slotFor (assembler.turnAfter progress.last))
      (assembler.openPool progress.deck progress.pool)
      (assembler.settings.minTotal - progress.total)) := by
    unfold picksFor
    -- The turn decides whether the slot picks what is missing or its own quantity.
    split
    · exact slot.selectCount _ _ _
    · exact slot.select _ _ _
  obtain ⟨picks, picked⟩ := picked
  -- What remains of the visit is decided by the picks.
  refine ⟨picks.map fun picks => ⟨assembler.openPool progress.deck progress.pool,
    assembler.turnAfter progress.last, (assembler.addPicks progress.total picks progress.deck 0).1,
    (assembler.addPicks progress.total picks progress.deck 0).2⟩, fun source => ?_⟩
  unfold Assembler.visit
  simp only [Progress.reseeded, next, active, picked, Bool.not_true, Bool.false_eq_true, if_false]
  cases picks <;> rfl

/-- An assembler that leaves nothing to chance assembles the same deck or fails in the same way whatever the
randomness, and leaves the source as it was. -/
theorem assemble_seedless (determined : assembler.Determined) (records : List Record)
    (source other : Random.Source) :
    (assembler.assemble records source).1 = (assembler.assemble records other).1 ∧
      (assembler.assemble records source).2 = source := by
  suffices drawless : Random.Drawless (assembler.assemble records) by
    obtain ⟨outcome, same⟩ := drawless
    rw [same source, same other]
    exact ⟨rfl, rfl⟩
  by_cases slotted : assembler.slots = []
  · -- A fault of the setup is found before anything is drawn.
    exact ⟨.error .noSlots, fun source => by simp [assemble, slotted]⟩
  obtain ⟨outcome, filled⟩ := Progress.repeatVisits_drawless (determined.visit slotted)
    assembler.settings.minTotal assembler.settings.maxIterations (start records source)
  have filled : ∀ source, assembler.fill (start records source) =
      (outcome.map (·.reseeded source), source) := filled
  have some : assembler.slots.isEmpty = false := by simpa using slotted
  by_cases inverted : assembler.settings.maxTotal < assembler.settings.minTotal
  -- Nor does the second test of the setup draw anything.
  · refine ⟨.error (.invalidDeckSize assembler.settings.minTotal assembler.settings.maxTotal),
      fun source => ?_⟩
    simp [assemble, some, inverted]
  · -- The trim looks at the deck only, which is the same for every source.
    refine ⟨outcome.map fun last => assembler.trimmed records last.deck, fun source => ?_⟩
    unfold assemble
    simp only [some, Bool.false_eq_true, if_false, inverted, filled]
    cases outcome <;> rfl

/-- A record with a number for every attribute to sort by. -/
def sortable (number : UInt32) (value : Float) : Record :=
  ⟨⟨number⟩, fun _ => .absent, fun _ => .number value⟩

/-- An assembler that picks the cheapest of the cards that are tied. -/
def thrifty : Assembler where
  settings := { minTotal := 1, maxTotal := 1, iterationPolicy := .sequentialFillRemaining }
  slots := [{ policy := .mostPoints, tieThreshold := 1.0, tieBreak := .ascending .cmc }]
  remainder := some { policy := .mostPoints }

/-- The cheaper card is picked from every source, and the source is left as it was. -/
theorem assemble_seedless_thrifty :
    thrifty.assemble [sortable 1 5.0, sortable 2 3.0] (.ofSeed 7) =
        (.ok (.ofEntries [⟨⟨2⟩, 1⟩]), .ofSeed 7) ∧
      thrifty.assemble [sortable 1 5.0, sortable 2 3.0] (.ofSeed 8) =
        (.ok (.ofEntries [⟨⟨2⟩, 1⟩]), .ofSeed 8) := by
  -- Both slots pick a set number by the most points, one with its ties decided and one without a threshold.
  have determined : thrifty.Determined := by
    refine ⟨by decide, ?_⟩
    simp only [allSlots, thrifty, Option.toList_some, List.cons_append, List.nil_append,
      List.forall_mem_cons]
    exact ⟨⟨by decide, ⟨1, rfl⟩, rfl, .inr ⟨.cmc, rfl⟩⟩,
      ⟨by decide, ⟨1, rfl⟩, rfl, .inl (by decide)⟩, by simp⟩
  -- Both cards have no points, so they stay in order and are tied.
  have sorted : Candidate.sorted [⟨sortable 1 5.0, 0.0⟩, ⟨sortable 2 3.0, 0.0⟩] =
      [⟨sortable 1 5.0, 0.0⟩, ⟨sortable 2 3.0, 0.0⟩] :=
    List.mergeSort_of_pairwise (by decide +kernel)
  -- Within the threshold the tie goes to the lower cost, which is that of the second record.
  have most : (thrifty.slotFor (.slot 0)).pickMost
      [⟨sortable 1 5.0, 0.0⟩, ⟨sortable 2 3.0, 0.0⟩] 1 (.ofSeed 7) =
      ([⟨sortable 2 3.0, 0.0⟩], .ofSeed 7) := by
    unfold Slot.pickMost
    dsimp only
    rw [sorted, if_neg (by decide)]
    rfl
  have picked : thrifty.picksFor (.slot 0) (thrifty.slotFor (.slot 0))
      (thrifty.openPool .empty [sortable 1 5.0, sortable 2 3.0]) 1 (.ofSeed 7) =
      (.ok [sortable 2 3.0], .ofSeed 7) := by
    show (Except.ok (((thrifty.slotFor (.slot 0)).pickMost
        [⟨sortable 1 5.0, 0.0⟩, ⟨sortable 2 3.0, 0.0⟩] 1 (.ofSeed 7)).1.map Candidate.record),
      ((thrifty.slotFor (.slot 0)).pickMost
        [⟨sortable 1 5.0, 0.0⟩, ⟨sortable 2 3.0, 0.0⟩] 1 (.ofSeed 7)).2) = _
    rw [most]
    rfl
  have assembled : thrifty.assemble [sortable 1 5.0, sortable 2 3.0] (.ofSeed 7) =
      (.ok (.ofEntries [⟨⟨2⟩, 1⟩]), .ofSeed 7) := by
    unfold assemble
    rw [fill_of_picks rfl rfl picked (by decide) (by decide) (by decide)]
    rfl
  -- What has been found out for one source holds for the other one too.
  obtain ⟨same, kept⟩ := assemble_seedless determined [sortable 1 5.0, sortable 2 3.0] (.ofSeed 8)
    (.ofSeed 7)
  rw [assembled] at same
  exact ⟨assembled, Prod.ext same kept⟩

end Assembler

end Decksmith
