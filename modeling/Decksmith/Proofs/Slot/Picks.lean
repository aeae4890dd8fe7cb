import Decksmith.Proofs.Binary64.Order
import Decksmith.Proofs.Query.Mask
import Decksmith.Proofs.Random.Draws
import Decksmith.Slot.Selection
import Mathlib.Data.List.Perm.Basic
import Mathlib.Data.List.Perm.Subperm

/-! What a slot picks: records of its pool, and by the most points always as many as it can. -/

namespace Decksmith

/-- Candidates carry the records that they were made from, in order. -/
theorem Candidate.map_record (records : List Record) (scores : List Float)
    (full : scores.length = records.length) :
    (List.zipWith Candidate.mk records scores).map Candidate.record = records := by
  rw [List.map_zipWith]
  -- A list is zipped whole when the other one has its length.
  refine List.ext_getElem (by simp [full]) fun i _ _ => ?_
  simp

/-- Candidates carry the scores that they were made with, in order. -/
theorem Candidate.map_score (records : List Record) (scores : List Float)
    (full : scores.length = records.length) :
    (List.zipWith Candidate.mk records scores).map Candidate.score = scores := by
  rw [List.map_zipWith]
  refine List.ext_getElem (by simp [full]) fun i _ _ => ?_
  simp

/-- The search for the least number ends at the best index so far or at one that it has passed. -/
theorem Candidate.leastIndexFrom_lt (values : List Float) :
    ∀ (best : Nat) (least : Float) (index : Nat), best < index →
      leastIndexFrom best least index values < index + values.length := by
  induction values with
  | nil => exact fun _ _ _ earlier => earlier
  | cons value others ih =>
    intro best least index earlier
    simp only [leastIndexFrom, List.length_cons]
    -- Whichever index is the best one so far, it lies before the next.
    split
    · have := ih best least (index + 1) (by omega)
      omega
    · have := ih index value (index + 1) (by omega)
      omega

/-- The least number has a position in its list, and position zero stands in for it where there is
none. -/
theorem Candidate.leastIndex_lt {values : List Float} {bound : Nat} (positive : 0 < bound)
    (within : values.length ≤ bound) : leastIndex values < bound := by
  cases values with
  | nil => exact positive
  | cons first others =>
    -- The search starts behind the first number, whose position is within the list.
    have := leastIndexFrom_lt others 0 first 1 (by omega)
    simp only [leastIndex, List.length_cons] at *
    omega

namespace Slot

/-- Rankings give every record a score. -/
theorem length_addRanking (records : List Record) (scores : List Float) (ranking : Ranking)
    (full : scores.length = records.length) :
    (addRanking records scores ranking).length = records.length := by
  simp [addRanking, full]

/-- Filters give every record a score. -/
theorem length_addFilter (mode : CaseMode) (records : List Record) (scores : List Float)
    (filter : Query × Int) (full : scores.length = records.length) :
    (addFilter mode records scores filter).length = records.length := by
  simp [addFilter, full]

/-- Every record has a score. -/
@[simp] theorem length_scores (slot : Slot) (mode : CaseMode) (records : List Record) :
    (slot.scores mode records).length = records.length := by
  -- Neither kind of step changes the number of scores.
  have ranked : ∀ (rankings : List Ranking) (scores : List Float),
      scores.length = records.length →
        (rankings.foldl (addRanking records) scores).length = records.length := by
    intro rankings
    induction rankings with
    | nil => exact fun _ full => full
    | cons ranking others ih =>
      exact fun scores full => ih _ (length_addRanking records scores ranking full)
  have filtered : ∀ (filters : List (Query × Int)) (scores : List Float),
      scores.length = records.length →
        (filters.foldl (addFilter mode records) scores).length = records.length := by
    intro filters
    induction filters with
    | nil => exact fun _ full => full
    | cons filter others ih =>
      exact fun scores full => ih _ (length_addFilter mode records scores filter full)
  exact filtered _ _ (ranked _ _ (by simp))

/-- A tie goes to a candidate of the order, even when no score is tied with the best one. -/
theorem breakTie_lt (slot : Slot) (best : Candidate) (order : List Candidate)
    (source : Random.Source) (positive : 0 < order.length) :
    (slot.breakTie (slot.tied best order) source).1 < order.length := by
  -- The tied candidates stand at the front of the order, so their positions are positions of it.
  have within : (slot.tied best order).length ≤ order.length :=
    (List.takeWhile_prefix _).length_le
  unfold breakTie
  split
  · -- Without a tied candidate, which a NaN brings about, nothing is drawn.
    rcases Nat.eq_zero_or_pos (slot.tied best order).length with none | some
    · simpa [Random.Source.position?, none] using positive
    · exact Nat.lt_of_lt_of_le (source.position_lt some) within
  · exact Candidate.leastIndex_lt positive (by simpa using within)

/-- Picking from the tied candidates takes candidates of the order, none of them twice. -/
theorem pickTied_subperm (slot : Slot) (count : Nat) (order : List Candidate)
    (source : Random.Source) : (slot.pickTied count order source).1.Subperm order := by
  induction count generalizing order source with
  | zero => simp [pickTied]
  | succ count ih =>
    cases order with
    | nil => simp [pickTied]
    | cons best others =>
      -- The chosen candidate leaves the order, so the further picks come from the others.
      have chosen := slot.breakTie_lt best (best :: others) source (by simp)
      rw [pickTied]
      dsimp only
      rw [List.getElem?_eq_getElem chosen, Option.getD_some]
      exact ((List.subperm_cons _).mpr (ih _ _)).trans
        (List.getElem_cons_eraseIdx_perm chosen).subperm

/-- Picking from the tied candidates goes on until there are enough or none are left. -/
theorem length_pickTied (slot : Slot) (count : Nat) (order : List Candidate)
    (source : Random.Source) :
    (slot.pickTied count order source).1.length = min count order.length := by
  induction count generalizing order source with
  | zero => simp [pickTied]
  | succ count ih =>
    cases order with
    | nil => simp [pickTied]
    | cons best others =>
      -- Each round takes one candidate out of the order, so that one fewer is left.
      have chosen := slot.breakTie_lt best (best :: others) source (by simp)
      have shorter := List.length_eraseIdx_of_lt chosen
      simp only [List.length_cons, Nat.add_sub_cancel] at shorter
      rw [pickTied]
      simp only [List.length_cons, ih, shorter]
      omega

/-- The candidates with the most points are candidates, none of them twice. -/
theorem pickMost_subperm (slot : Slot) (candidates : List Candidate) (count : Nat)
    (source : Random.Source) : (slot.pickMost candidates count source).1.Subperm candidates := by
  -- Either way the picks come from the sorted candidates, which are the same ones.
  have sorted : (Candidate.sorted candidates).Subperm candidates :=
    (List.mergeSort_perm _ _).subperm
  unfold pickMost
  dsimp only
  split
  · exact (List.take_sublist _ _).subperm.trans sorted
  · exact (slot.pickTied_subperm count _ source).trans sorted

/-- By the most points a slot picks as many candidates as it can. -/
theorem length_pickMost (slot : Slot) (candidates : List Candidate) (count : Nat)
    (source : Random.Source) :
    (slot.pickMost candidates count source).1.length = min count candidates.length := by
  -- Sorting and picking from the ties both keep the count.
  have sorted : (Candidate.sorted candidates).length = candidates.length :=
    List.length_mergeSort _
  unfold pickMost
  dsimp only
  split
  · simp [sorted]
  · rw [length_pickTied, sorted]

/-- The candidates whose weight a choice does not pass over. -/
def live : List Candidate → List Float → List Candidate
  | candidate :: others, weight :: weights =>
    if weight ≤ 0.0 then live others weights else candidate :: live others weights
  | _, _ => []

/-- A candidate whose weight is taken away is no longer among those that can be chosen. -/
theorem live_set {candidates : List Candidate} {weights : List Float} {index : Nat} {weight : Float}
    (found : weights[index]? = some weight) (positive : ¬ weight ≤ 0.0) :
    (candidates[index]?.toList ++ live candidates (weights.set index 0.0)).Perm
      (live candidates weights) := by
  induction candidates generalizing weights index with
  | nil => simp [live]
  | cons candidate others ih =>
    cases weights with
    | nil => simp at found
    | cons first rest =>
      cases index with
      | zero =>
        -- The candidate at the front gives up its own weight, and zero is passed over.
        obtain rfl : first = weight := by simpa using found
        have none : (0.0 : Float) ≤ 0.0 := by decide
        simp [live, positive, none]
      | succ index =>
        -- Whether the candidate at the front can be chosen stays as it was.
        have further := @ih rest index found
        simp only [List.set_cons_succ, List.getElem?_cons_succ, live]
        split
        · exact further
        · exact List.perm_middle.trans (further.cons candidate)

/-- Candidates with their own weights can be chosen if their scores are positive. -/
theorem live_weight (candidates : List Candidate) :
    live candidates (candidates.map Candidate.weight) = candidates.filter (·.score > 0.0) := by
  -- Weight by weight, what a choice passes over is what the filter drops.
  induction candidates with
  | nil => rfl
  | cons candidate others ih =>
    rw [List.map_cons, live, ih, Candidate.weight, List.filter_cons]
    by_cases scored : candidate.score > 0.0
    · rw [if_pos scored, if_neg (Binary64.not_le_of_lt scored), if_pos (by simpa using scored)]
    · -- Any other score weighs zero.
      rw [if_neg scored, if_pos (by decide), if_neg (by simpa using scored)]

/-- Picking by weight takes candidates that can be chosen, none of them twice. -/
theorem pickWeighted_subperm (candidates : List Candidate) (count : Nat) (weights : List Float)
    (source : Random.Source) :
    (pickWeighted candidates count weights source).1.Subperm (live candidates weights) := by
  induction count generalizing weights source with
  | zero => simp [pickWeighted]
  | succ count ih =>
    rw [pickWeighted]
    split
    -- Without a choice there are no further picks.
    · simp
    · rename_i index rest drawn
      -- The candidate at the index gives up its weight, and the further picks come from the others.
      obtain ⟨weight, found, positive⟩ := Random.Source.weighted?_eq_some drawn
      exact (List.Subperm.append (.refl _) (ih _ rest)).trans (live_set found positive).subperm

/-- Picking by weight takes no more candidates than are asked for. -/
theorem length_pickWeighted_le (candidates : List Candidate) (count : Nat) (weights : List Float)
    (source : Random.Source) : (pickWeighted candidates count weights source).1.length ≤ count := by
  induction count generalizing weights source with
  | zero => simp [pickWeighted]
  | succ count ih =>
    rw [pickWeighted]
    split
    · simp
    · rename_i index rest drawn
      -- A draw takes one candidate at most.
      have one : candidates[index]?.toList.length ≤ 1 := by
        cases candidates[index]? <;> simp
      have further := ih (weights.set index 0.0) rest
      rw [List.length_append]
      omega

/-- Picking at random takes candidates with positive scores, none of them twice. -/
theorem pickRandom_subperm {candidates picks : List Candidate} {count : Nat}
    {source rest : Random.Source} (picked : pickRandom candidates count source = (.ok picks, rest)) :
    picks.Subperm (candidates.filter (·.score > 0.0)) := by
  unfold pickRandom at picked
  dsimp only at picked
  split at picked
  · obtain ⟨⟨⟩, -⟩ := picked
    have drawn := pickWeighted_subperm (source.shuffle candidates).1 count
      ((source.shuffle candidates).1.map Candidate.weight) (source.shuffle candidates).2
    -- The candidates are weighed in a shuffled order, which has the same ones.
    rw [live_weight] at drawn
    exact drawn.trans ((source.shuffle_perm candidates).filter _).subperm
  · simp at picked

/-- Picking at random takes no more candidates than are asked for. -/
theorem length_pickRandom_le {candidates picks : List Candidate} {count : Nat}
    {source rest : Random.Source} (picked : pickRandom candidates count source = (.ok picks, rest)) :
    picks.length ≤ count := by
  -- Whatever the shuffled order is, the picks by weight are no more than that.
  unfold pickRandom at picked
  dsimp only at picked
  split at picked
  · obtain ⟨⟨⟩, -⟩ := picked
    exact length_pickWeighted_le _ _ _ _
  · simp at picked

/-- A candidate that is alone is picked, whatever is drawn. -/
theorem pickRandom_singleton {candidate : Candidate} (weighty : candidate.weight > 0.0)
    (counted : (Random.Source.positiveTotal [candidate.weight] > 0.0 &&
      (Random.Source.positiveTotal [candidate.weight]).isFinite) = true)
    (positive : ¬ candidate.weight ≤ 0.0) (source : Random.Source) :
    ∃ rest, pickRandom [candidate] 1 source = (.ok [candidate], rest) := by
  have chosen := source.weighted?_singleton counted positive
  -- A single candidate stays in its place without a draw.
  have unmoved : source.shuffle [candidate] = ([candidate], source) := rfl
  rcases drawn : source.weighted? [candidate.weight] with ⟨index, rest⟩
  rw [drawn] at chosen
  cases chosen
  refine ⟨rest, ?_⟩
  simp [pickRandom, unmoved, weighty, pickWeighted, drawn]

/-- The eligible records with their scores. -/
def candidates (slot : Slot) (mode : CaseMode) (records : List Record) : List Candidate :=
  List.zipWith Candidate.mk (slot.eligible records) (slot.scores mode (slot.eligible records))

/-- The candidates of a slot carry the eligible records. -/
theorem map_record_candidates (slot : Slot) (mode : CaseMode) (records : List Record) :
    (slot.candidates mode records).map Candidate.record = slot.eligible records :=
  -- There are as many scores as records, so pairing them loses none.
  Candidate.map_record _ _ (slot.length_scores mode _)

/-- The candidates of a slot carry the scores of the eligible records. -/
theorem map_score_candidates (slot : Slot) (mode : CaseMode) (records : List Record) :
    (slot.candidates mode records).map Candidate.score = slot.scores mode (slot.eligible records) :=
  Candidate.map_score _ _ (slot.length_scores mode _)

/-- At each position stand an eligible record and the candidate with it, in the same order. -/
theorem getElem?_eligible (slot : Slot) (mode : CaseMode) (records : List Record) (position : Nat) :
    (slot.eligible records)[position]? =
      (slot.candidates mode records)[position]?.map Candidate.record := by
  rw [← slot.map_record_candidates mode records, List.getElem?_map]

/-- Which candidates a slot may choose: different ones, no more than are asked for, by the most points
as many as there are, and at random only such as have a positive score. -/
structure Chooses (slot : Slot) (mode : CaseMode) (records : List Record) (count : Nat)
    (chosen : List Candidate) : Prop where
  part : chosen.Subperm (slot.candidates mode records)
  few : chosen.length ≤ count
  most : slot.policy = .mostPoints → chosen.length = min count (slot.eligible records).length
  scored : slot.policy = .randomByPointWeight → ∀ candidate ∈ chosen, candidate.score > 0.0

/-- A slot picks the records of candidates that it may choose. -/
theorem selectCount_chooses {slot : Slot} {mode : CaseMode} {records picks : List Record}
    {count : Nat} {source rest : Random.Source}
    (selected : slot.selectCount mode records count source = (.ok picks, rest)) :
    ∃ chosen, picks = chosen.map Candidate.record ∧ slot.Chooses mode records count chosen := by
  unfold selectCount at selected
  dsimp only at selected
  split at selected
  · -- Nothing is eligible or nothing is asked for.
    rename_i nothing
    obtain ⟨⟨⟩, -⟩ := selected
    refine ⟨[], rfl, List.nil_subperm, Nat.zero_le _, fun _ => ?_, by simp⟩
    rcases (Bool.or_eq_true _ _).mp nothing with empty | zero
    · simp [List.isEmpty_iff.mp empty]
    · simp [of_decide_eq_true zero]
  · split at selected
    · rename_i byPoints
      obtain ⟨⟨⟩, -⟩ := selected
      -- There are as many candidates as eligible records.
      have eligible : (slot.candidates mode records).length = (slot.eligible records).length := by
        rw [← map_record_candidates slot mode records, List.length_map]
      have length := slot.length_pickMost (slot.candidates mode records) count source
      rw [eligible] at length
      exact ⟨_, rfl, slot.pickMost_subperm _ count source, length ▸ Nat.min_le_left _ _,
        fun _ => length, fun random => nomatch byPoints.symm.trans random⟩
    · rename_i random
      cases drawn : pickRandom (slot.candidates mode records) count source with
      | mk result later =>
        rw [← candidates, drawn] at selected
        cases result with
        | error fault => simp [Except.map] at selected
        | ok chosen =>
          obtain ⟨⟨⟩, -⟩ := selected
          -- What is chosen at random has positive scores among the candidates.
          have part := pickRandom_subperm drawn
          exact ⟨chosen, rfl, part.trans (List.filter_sublist).subperm, length_pickRandom_le drawn,
            fun byPoints => (nomatch random.symm.trans byPoints),
            fun _ candidate member => by simpa using List.of_mem_filter (part.subset member)⟩

/-- A slot picks records that are eligible. -/
theorem selectCount_subset {slot : Slot} {mode : CaseMode} {records picks : List Record}
    {count : Nat} {source rest : Random.Source}
    (selected : slot.selectCount mode records count source = (.ok picks, rest)) :
    picks ⊆ slot.eligible records := by
  obtain ⟨chosen, rfl, chooses⟩ := selectCount_chooses selected
  -- A candidate's record is the one that the candidate was made from.
  have carried := List.map_subset Candidate.record chooses.part.subset
  rwa [map_record_candidates] at carried

/-- A slot that draws its quantity picks records that are eligible. -/
theorem select_subset {slot : Slot} {mode : CaseMode} {records picks : List Record}
    {deckSize : Option Nat} {source rest : Random.Source}
    (selected : slot.select mode records deckSize source = (.ok picks, rest)) :
    picks ⊆ slot.eligible records := by
  -- Once the quantity is resolved, this is a selection of so many.
  unfold select at selected
  split at selected
  · simp at selected
  · exact selectCount_subset selected

/-- By the most points a slot never fails, and it picks as many eligible records as it can. -/
theorem selectCount_mostPoints {slot : Slot} (byPoints : slot.policy = .mostPoints)
    (mode : CaseMode) (records : List Record) (count : Nat) (source : Random.Source) :
    ∃ picks rest, slot.selectCount mode records count source = (.ok picks, rest) ∧
      picks.length = min count (slot.eligible records).length := by
  unfold selectCount
  dsimp only
  split
  · -- Nothing is eligible or nothing is asked for.
    rename_i nothing
    refine ⟨[], source, rfl, ?_⟩
    rcases (Bool.or_eq_true _ _).mp nothing with empty | zero
    · simp [List.isEmpty_iff.mp empty]
    · simp [of_decide_eq_true zero]
  · rw [byPoints]
    refine ⟨_, _, rfl, ?_⟩
    -- There are as many candidates as eligible records.
    rw [List.length_map, length_pickMost]
    simp

/-- A slot that scores nothing picks from the front, because ties keep their order. -/
theorem selectCount_unscored (slot : Slot) (byPoints : slot.policy = .mostPoints)
    (unranked : slot.rankings = []) (unfiltered : slot.filters = [])
    (exact : slot.tieThreshold ≤ 0.0) (mode : CaseMode) (records : List Record) (count : Nat)
    (source : Random.Source) :
    slot.selectCount mode records count source = (.ok ((slot.eligible records).take count), source) := by
  have scores : slot.scores mode (slot.eligible records) =
      (slot.eligible records).map fun _ => 0.0 := by simp [Slot.scores, unranked, unfiltered]
  have candidates : List.zipWith Candidate.mk (slot.eligible records)
      ((slot.eligible records).map fun _ => (0.0 : Float)) =
      (slot.eligible records).map (Candidate.mk · 0.0) := by
    rw [List.zipWith_map_right, List.zipWith_self]
  -- All candidates have one score, so they are in order already.
  have sorted : Candidate.sorted ((slot.eligible records).map (Candidate.mk · 0.0)) =
      (slot.eligible records).map (Candidate.mk · 0.0) := by
    refine List.mergeSort_of_pairwise (List.pairwise_map.mpr ?_)
    exact List.pairwise_of_forall fun _ _ => (rfl : Decimal.totalLe 0.0 0.0 = true)
  unfold selectCount
  simp only [scores, candidates, byPoints, pickMost, sorted, if_pos exact, ← List.map_take,
    List.map_map]
  -- Where nothing is eligible or asked for, the front is empty too.
  split
  · rename_i nothing
    rcases (Bool.or_eq_true _ _).mp nothing with empty | zero
    · simp [List.isEmpty_iff.mp empty]
    · simp [of_decide_eq_true zero]
  · simp [Function.comp_def]

/-- A slot that scores nothing and has a fixed quantity picks so many from the front. -/
theorem select_unscored (slot : Slot) {count : Nat} (fixed : slot.quantity = .exactly count)
    (byPoints : slot.policy = .mostPoints) (unranked : slot.rankings = [])
    (unfiltered : slot.filters = []) (exact : slot.tieThreshold ≤ 0.0) (mode : CaseMode)
    (records : List Record) (deckSize : Option Nat) (source : Random.Source) :
    slot.select mode records deckSize source =
      (.ok ((slot.eligible records).take count), source) := by
  -- A fixed quantity draws nothing.
  have resolved : slot.quantity.resolve deckSize source = (.ok count, source) := by
    simp [fixed, Quantity.exactly, Quantity.resolve, Random.Source.between]
  rw [select, resolved]
  exact slot.selectCount_unscored byPoints unranked unfiltered exact mode records count source

end Slot

end Decksmith
