import Decksmith.Proofs.Random.Weights
import Decksmith.Proofs.Slot.Ranked

/-! How many records a slot picks at random: as many as have a positive score, unless the total of these
scores overflows. -/

namespace Decksmith

/-- Weights add up to what the positive scores do, since any other score weighs nothing. -/
theorem Candidate.positiveTotal_weight (candidates : List Candidate) :
    Random.Source.positiveTotal (candidates.map Candidate.weight) =
      Random.Source.positiveTotal (candidates.map Candidate.score) := by
  have same : (candidates.map Candidate.weight).filter (· > 0.0) =
      (candidates.map Candidate.score).filter (· > 0.0) := by
    -- Each candidate keeps its positive score as its weight, and any other weight is zero and passed over.
    induction candidates with
    | nil => rfl
    | cons candidate others ih =>
      rw [List.map_cons, List.map_cons, List.filter_cons, List.filter_cons, ih, Candidate.weight]
      by_cases scored : candidate.score > 0.0
      · rw [if_pos scored]
      · rw [if_neg scored, if_neg (by decide), if_neg (by simpa using scored)]
  rw [Random.Source.positiveTotal, same, Random.Source.positiveTotal]

namespace Slot

/-- A weight that is not passed over can be found where a candidate can be chosen. -/
theorem exists_weight_of_live {candidates : List Candidate} {weights : List Float}
    (some : live candidates weights ≠ []) : ∃ weight ∈ weights, ¬ weight ≤ 0.0 := by
  -- The search passes over weights until it finds one that is not passed over.
  induction candidates generalizing weights with
  | nil => simp [live] at some
  | cons candidate others ih =>
    cases weights with
    | nil => simp [live] at some
    | cons weight rest =>
      by_cases passed : weight ≤ 0.0
      · rw [live, if_pos passed] at some
        obtain ⟨found, member, positive⟩ := ih some
        exact ⟨found, List.mem_cons_of_mem _ member, positive⟩
      · exact ⟨weight, List.mem_cons_self, passed⟩

/-- Picking by weight goes on until there are enough or none can be chosen any more. -/
theorem length_pickWeighted {candidates : List Candidate} (count : Nat) {weights : List Float}
    (paired : weights.length = candidates.length)
    (comparable : ∀ weight ∈ weights, weight > 0.0 ∨ weight ≤ 0.0)
    (finite : (Random.Source.positiveTotal weights).isFinite = true) (source : Random.Source) :
    (pickWeighted candidates count weights source).1.length =
      min count (live candidates weights).length := by
  -- The induction is on the picks. Each of them sets one weight to zero and leaves one live candidate fewer.
  induction count generalizing weights source with
  | zero => simp [pickWeighted]
  | succ count ih =>
    by_cases none : live candidates weights = []
    · -- Nothing can be picked where nothing can be chosen.
      have picked := (pickWeighted_subperm candidates (count + 1) weights source).length_le
      rw [none] at picked ⊢
      simpa using picked
    -- Some weight is positive and the total is finite, so a draw succeeds.
    · obtain ⟨weight, member, counts⟩ := exists_weight_of_live none
      have positive := (comparable weight member).resolve_right counts
      obtain ⟨index, rest, drawn⟩ := Random.Source.exists_weighted? member positive finite source
      obtain ⟨chosen, found, taken⟩ := Random.Source.weighted?_eq_some drawn
      have above := (comparable chosen (List.mem_of_getElem? found)).resolve_right taken
      have within : index < candidates.length := paired ▸ (List.getElem?_eq_some_iff.mp found).1
      -- The choice falls on one candidate, and the weights of the others stay as they are.
      have others : (candidates[index]?.toList ++ live candidates (weights.set index 0.0)).Perm
        (live candidates weights) := live_set found taken
      have still : ∀ weight ∈ weights.set index 0.0, weight > 0.0 ∨ weight ≤ 0.0 := by
        intro weight member
        rcases List.mem_or_eq_of_mem_set member with old | rfl
        · exact comparable weight old
        · exact .inr (by decide)
      have further := ih (by simpa using paired) still
        (Random.Source.isFinite_positiveTotal_set found above finite) rest
      have total := others.length_eq
      rw [pickWeighted, drawn]
      simp only [List.getElem?_eq_getElem within, Option.toList_some, List.length_append,
        List.length_singleton] at total ⊢
      omega

/-- Where the total of the weights overflows, nothing is picked. -/
theorem pickWeighted_overflowing {candidates : List Candidate} {count : Nat} {weights : List Float}
    (infinite : (Random.Source.positiveTotal weights).isFinite = false) (source : Random.Source) :
    (pickWeighted candidates count weights source).1 = [] := by
  cases count with
  | zero => rfl
  | succ count => simp [pickWeighted, Random.Source.weighted?, infinite]

/-- Picking at random fails where no score is positive. Otherwise it goes on until there are enough or no
positive score is left, unless the total of these scores overflows and nothing can be picked. -/
theorem pickRandom_cases (candidates : List Candidate) (count : Nat) (source : Random.Source) :
    ((∀ candidate ∈ candidates, ¬ candidate.score > 0.0) ∧
      (pickRandom candidates count source).1 =
        .error (.nonPositiveWeightTotal ((candidates.map Candidate.score).foldl (· + ·) 0.0))) ∨
    ((∃ candidate ∈ candidates, candidate.score > 0.0) ∧
      ∃ picks, (pickRandom candidates count source).1 = .ok picks ∧ picks.length =
        if (Random.Source.positiveTotal (source.shuffle (candidates.map Candidate.score)).1).isFinite then
          min count (candidates.filter (·.score > 0.0)).length
        else 0) := by
  -- Shuffling changes the order of the candidates but not which there are.
  have same := source.shuffle_perm candidates
  -- A weight is positive exactly where a score is, because any other score weighs zero.
  have weighty : ((source.shuffle candidates).1.map Candidate.weight).any (· > 0.0) = true ↔
      ∃ candidate ∈ candidates, candidate.score > 0.0 := by
    simp only [List.any_map, List.any_eq_true, Function.comp_apply, decide_eq_true_eq, same.mem_iff]
    refine exists_congr fun candidate => and_congr_right fun _ => ?_
    rw [Candidate.weight]
    split
    · rfl
    · rename_i scored
      exact iff_of_false (by decide) scored
  unfold pickRandom
  dsimp only
  split
  · rename_i some
    refine .inr ⟨weighty.mp some, _, rfl, ?_⟩
    -- The shuffled weights add up to what the shuffled scores do.
    have total := Candidate.positiveTotal_weight (source.shuffle candidates).1
    have shuffled : (source.shuffle (candidates.map Candidate.score)).1 =
        (source.shuffle candidates).1.map Candidate.score := by rw [Random.Source.shuffle_map]
    rw [shuffled, ← total]
    split
    · rename_i finite
      -- Weights are numbers even where scores are not.
      have comparable : ∀ weight ∈ (source.shuffle candidates).1.map Candidate.weight,
          weight > 0.0 ∨ weight ≤ 0.0 := by
        intro weight member
        obtain ⟨candidate, -, rfl⟩ := List.mem_map.mp member
        rw [Candidate.weight]
        split
        · exact .inl ‹_›
        · exact .inr (by decide)
      rw [length_pickWeighted count (List.length_map _) comparable finite, live_weight,
        (same.filter _).length_eq]
    · rename_i infinite
      rw [pickWeighted_overflowing (by simpa using infinite), List.length_nil]
  · rename_i none
    exact .inl ⟨fun candidate member scored => none (weighty.mpr ⟨candidate, member, scored⟩), rfl⟩

/-- The total of the positive scores, added up in the order in which a random pick goes through them. -/
def weightTotal (slot : Slot) (mode : CaseMode) (records : List Record) (source : Random.Source) : Float :=
  Random.Source.positiveTotal (source.shuffle (slot.scores mode (slot.eligible records))).1

/-- A slot that picks at random fails where no score is positive. Otherwise it picks as many records as it
is asked for and as have a positive score, unless the total of these scores overflows: then it picks none. -/
theorem selectCount_random {slot : Slot} (random : slot.policy = .randomByPointWeight) (mode : CaseMode)
    {records : List Record} (some : slot.eligible records ≠ []) {count : Nat} (asked : 0 < count)
    (source : Random.Source) :
    ((∃ total, (slot.selectCount mode records count source).1 = .error (.nonPositiveWeightTotal total)) ↔
      ∀ score ∈ slot.scores mode (slot.eligible records), ¬ score > 0.0) ∧
    ((∃ score ∈ slot.scores mode (slot.eligible records), score > 0.0) →
      ∃ picks, (slot.selectCount mode records count source).1 = .ok picks ∧ picks.length =
        if (slot.weightTotal mode records source).isFinite then
          min count ((slot.scores mode (slot.eligible records)).filter (· > 0.0)).length
        else 0) := by
  -- With records left and some asked for, the selection is the random pick and nothing else.
  have selected : (slot.selectCount mode records count source).1 =
      (pickRandom (slot.candidates mode records) count source).1.map (·.map Candidate.record) := by
    unfold selectCount
    simp [some, Nat.ne_of_gt asked, random, candidates]
  have scores := slot.map_score_candidates mode records
  have scored : (∃ score ∈ slot.scores mode (slot.eligible records), score > 0.0) ↔
      ∃ candidate ∈ slot.candidates mode records, candidate.score > 0.0 := by
    rw [← scores]
    simp
  -- Candidates and records have the same scores, so they are counted alike.
  have many : ((slot.candidates mode records).filter (·.score > 0.0)).length =
      ((slot.scores mode (slot.eligible records)).filter (· > 0.0)).length := by
    rw [← scores, List.filter_map, List.length_map]
    rfl
  rw [selected]
  rcases pickRandom_cases (slot.candidates mode records) count source with
    ⟨none, failed⟩ | ⟨some, picks, picked, length⟩
  · have none : ¬ ∃ score ∈ slot.scores mode (slot.eligible records), score > 0.0 := by
      rw [scored]
      rintro ⟨candidate, member, positive⟩
      exact none candidate member positive
    rw [failed]
    exact ⟨iff_of_true ⟨_, rfl⟩ fun score member positive => none ⟨score, member, positive⟩,
      fun some => absurd some none⟩
  · rw [picked]
    refine ⟨iff_of_false (by rintro ⟨total, ⟨⟩⟩) fun none => ?_, fun _ => ⟨_, rfl, ?_⟩⟩
    · obtain ⟨score, member, positive⟩ := scored.mpr some
      exact none score member positive
    · rw [List.length_map, length, scores, many]
      rfl

/-- A slot that shares out points by the converted mana cost. -/
def sharing (points : Float) : Slot where
  rankings := [⟨.cmc, .most, points⟩]

/-- Records of different costs, one of which gets no points. -/
def unlike : List Record := [costing 1 2.0, costing 2 0.0, costing 3 1.0]

/-- Of three records two have a positive score, and these are what is picked. -/
theorem selectCount_random_sharing :
    (sharing 10.0).policy = .randomByPointWeight ∧ (sharing 10.0).eligible unlike ≠ [] ∧ 0 < 3 ∧
      ∃ picks, ((sharing 10.0).selectCount .strict unlike 3 (.ofSeed 0)).1 = .ok picks ∧
        picks.length = 2 := by
  have eligible : (sharing 10.0).eligible unlike ≠ [] := by decide
  have finite : ((sharing 10.0).weightTotal .strict unlike (.ofSeed 0)).isFinite = true := by
    decide +kernel
  have scored : (((sharing 10.0).scores .strict ((sharing 10.0).eligible unlike)).filter
      (· > 0.0)).length = 2 := by decide +kernel
  -- A record with a positive score exists because two of them are counted.
  obtain ⟨score, member⟩ := List.exists_mem_of_length_pos (scored ▸ Nat.two_pos)
  obtain ⟨-, picks⟩ := selectCount_random rfl .strict eligible (show 0 < 3 by decide) (.ofSeed 0)
  obtain ⟨picks, picked, length⟩ :=
    picks ⟨score, List.mem_of_mem_filter member, by simpa using List.of_mem_filter member⟩
  refine ⟨rfl, eligible, by decide, picks, picked, ?_⟩
  rw [length, if_pos finite, scored]
  rfl

/-- Two records of one card. -/
def alike : List Record := [costing 7 1.0, costing 7 1.0]

/-- Two records have finite and positive scores, but the total of these overflows, so that none of them is
picked although two are asked for. -/
theorem selectCount_oversharing :
    (sharing 1.7e308).policy = .randomByPointWeight ∧ (sharing 1.7e308).eligible alike ≠ [] ∧
      ((sharing 1.7e308).scores .strict ((sharing 1.7e308).eligible alike)).all
        (fun score => score.isFinite && score > 0.0) = true ∧
      ¬ ∃ picks, ((sharing 1.7e308).selectCount .strict alike 2 (.ofSeed 0)).1 = .ok picks ∧
        picks.length = min 2
          (((sharing 1.7e308).scores .strict ((sharing 1.7e308).eligible alike)).filter
            (· > 0.0)).length := by
  -- The draw refuses a total that is no finite number, and so nothing is picked.
  have chosen : ((sharing 1.7e308).selectCount .strict alike 2 (.ofSeed 0)).1.toOption.map
      List.length = some 0 := by decide +kernel
  have scored : (((sharing 1.7e308).scores .strict ((sharing 1.7e308).eligible alike)).filter
      (· > 0.0)).length = 2 := by decide +kernel
  refine ⟨rfl, by decide, by decide +kernel, ?_⟩
  rintro ⟨picks, picked, length⟩
  rw [picked, Except.toOption, Option.map_some, Option.some_inj] at chosen
  omega

end Slot

end Decksmith
