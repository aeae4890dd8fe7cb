import Decksmith.Proofs.Slot.Weighted

/-! A slot that is asked for more records picks the same ones first. -/

namespace Decksmith.Slot

/-- Picking from the tied candidates starts in the same way, however many are asked for. -/
theorem take_pickTied (slot : Slot) {few many : Nat} (more : few ≤ many) (order : List Candidate)
    (source : Random.Source) :
    (slot.pickTied few order source).1 = (slot.pickTied many order source).1.take few := by
  -- Both runs go through the same orders and sources, until the shorter one ends.
  induction few generalizing many order source with
  | zero => rfl
  | succ few ih =>
    cases many with
    | zero => exact absurd more (Nat.not_succ_le_zero few)
    | succ many =>
      cases order with
      | nil => rfl
      | cons best others =>
        rw [pickTied, pickTied, List.take_succ_cons, ih (Nat.le_of_succ_le_succ more)]

/-- So does picking by weight. -/
theorem take_pickWeighted {candidates : List Candidate} {few many : Nat} (more : few ≤ many)
    {weights : List Float} (paired : weights.length = candidates.length) (source : Random.Source) :
    (pickWeighted candidates few weights source).1 =
      (pickWeighted candidates many weights source).1.take few := by
  -- Both runs draw from the same sources and take away the same weights, until the shorter one ends.
  induction few generalizing many weights source with
  | zero => rfl
  | succ few ih =>
    cases many with
    | zero => exact absurd more (Nat.not_succ_le_zero few)
    | succ many =>
      rw [pickWeighted, pickWeighted]
      rcases drawn : source.weighted? weights with ⟨_ | index, rest⟩
      -- Without a draw both runs end here.
      · rfl
      · -- The weight that is drawn belongs to one candidate.
        obtain ⟨weight, found, -⟩ := Random.Source.weighted?_eq_some drawn
        have within : index < candidates.length := paired ▸ (List.getElem?_eq_some_iff.mp found).1
        dsimp only
        rw [List.getElem?_eq_getElem within, Option.toList_some, List.singleton_append,
          List.singleton_append, List.take_succ_cons,
          ih (Nat.le_of_succ_le_succ more) (by simpa using paired)]

/-- By the most points a slot picks the same candidates first. -/
theorem take_pickMost (slot : Slot) {few many : Nat} (more : few ≤ many) (candidates : List Candidate)
    (source : Random.Source) :
    (slot.pickMost candidates few source).1 = (slot.pickMost candidates many source).1.take few := by
  -- The order by points does not depend on how many are asked for.
  unfold pickMost
  dsimp only
  split
  · rw [List.take_take, Nat.min_eq_left more]
  · exact slot.take_pickTied more _ source

/-- At random it fails in the same way or picks the same candidates first. -/
theorem take_pickRandom {few many : Nat} (more : few ≤ many) (candidates : List Candidate)
    (source : Random.Source) :
    (pickRandom candidates few source).1 = (pickRandom candidates many source).1.map (List.take few) := by
  -- Whether the pick fails is decided before the count is looked at, and so is the shuffled order.
  unfold pickRandom
  dsimp only
  split
  · exact congrArg Except.ok (take_pickWeighted more (List.length_map _) _)
  · rfl

/-- A slot that is asked for more records, but for some either way, fails in the same way or picks the same
records first. -/
theorem take_selectCount (slot : Slot) (mode : CaseMode) (records : List Record) {few many : Nat}
    (some : 0 < few) (more : few ≤ many) (source : Random.Source) :
    (slot.selectCount mode records few source).1 =
      (slot.selectCount mode records many source).1.map (List.take few) := by
  unfold selectCount
  dsimp only
  -- Some are asked for in both cases, so only a lack of eligible records ends either selection early.
  simp only [Nat.ne_of_gt some, Nat.ne_of_gt (Nat.lt_of_lt_of_le some more), decide_false, Bool.or_false]
  split
  · exact congrArg Except.ok List.take_nil.symm
  -- Each policy picks the same candidates first, and the records follow the candidates.
  · split
    · rw [slot.take_pickMost more, List.map_take]
      rfl
    · rw [take_pickRandom more]
      cases (pickRandom _ many source).1 with
      | error fault => rfl
      | ok picks => exact congrArg Except.ok List.map_take

/-- Asking for more records extends the picks: both fail with one error, or what is picked for the smaller
number is the beginning of what is picked for the larger one, as long as it can be. -/
theorem selectCount_extends (slot : Slot) (mode : CaseMode) (records : List Record) {few many : Nat}
    (some : 1 ≤ few) (more : few ≤ many) (source : Random.Source) :
    (∃ fault, (slot.selectCount mode records few source).1 = .error fault ∧
      (slot.selectCount mode records many source).1 = .error fault) ∨
    ∃ first all, (slot.selectCount mode records few source).1 = .ok first ∧
      (slot.selectCount mode records many source).1 = .ok all ∧
      first <+: all ∧ first.length = min few all.length := by
  rw [slot.take_selectCount mode records some more source]
  cases (slot.selectCount mode records many source).1 with
  | error fault => exact .inl ⟨fault, rfl, rfl⟩
  | ok all => exact .inr ⟨all.take few, all, rfl, rfl, List.take_prefix few all, List.length_take⟩

/-- A record that is drawn alone is drawn first when there is more to draw. -/
theorem selectCount_extends_sharing :
    1 ≤ 1 ∧ 1 ≤ 3 ∧
      ∃ first all, ((sharing 10.0).selectCount .strict unlike 1 (.ofSeed 0)).1 = .ok first ∧
        ((sharing 10.0).selectCount .strict unlike 3 (.ofSeed 0)).1 = .ok all ∧
        first <+: all ∧ first.map Record.id = [⟨1⟩] ∧ all.map Record.id = [⟨1⟩, ⟨3⟩] := by
  -- Two of the three records have a positive score, and both are drawn when three are asked for.
  have drawn : ((sharing 10.0).selectCount .strict unlike 3 (.ofSeed 0)).1.toOption.map
      (·.map Record.id) = some [⟨1⟩, ⟨3⟩] := by decide +kernel
  refine ⟨by decide, by decide, ?_⟩
  rcases (sharing 10.0).selectCount_extends .strict unlike (show 1 ≤ 1 by decide) (show 1 ≤ 3 by decide)
    (.ofSeed 0) with ⟨fault, -, failed⟩ | ⟨first, all, few, many, begins, length⟩
  · rw [failed] at drawn
    cases drawn
  · rw [many] at drawn
    have drawn : all.map Record.id = [⟨1⟩, ⟨3⟩] := Option.some.inj drawn
    refine ⟨first, all, few, many, begins, ?_, drawn⟩
    -- Of the two that are picked the first one is the shorter answer.
    rw [List.prefix_iff_eq_take.mp begins, List.map_take, drawn, length,
      ← List.length_map Record.id, drawn]
    rfl

end Decksmith.Slot
