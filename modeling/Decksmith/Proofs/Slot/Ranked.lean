import Decksmith.Proofs.Slot.Picks
import Mathlib.Data.List.Nodup

/-! The order by points: every position once, from the highest score to the lowest, and from the front to the
back where scores are equal. Without a tie threshold a slot picks from the front of it. -/

namespace Decksmith

/-- One position outranks another one: its score is higher, or it is the same and stands in front. -/
def Outranks (scores : List Float) (position other : Nat) : Prop :=
  ∃ score lower, scores[position]? = some score ∧ scores[other]? = some lower ∧
    (Decimal.orderKey lower < Decimal.orderKey score ∨
      Decimal.orderKey lower = Decimal.orderKey score ∧ position < other)

/-- An order of all positions in which each one outranks those behind it. -/
structure Ranked (scores : List Float) (order : List Nat) : Prop where
  every : order.Perm (List.range scores.length)
  outranks : order.Pairwise (Outranks scores)

namespace Candidate

/-- Whether a candidate comes no later than another one by its points. -/
def noLater (a b : Candidate) : Bool :=
  Decimal.totalLe b.score a.score

theorem noLater_trans (a b c : Candidate) (first : noLater a b = true) (second : noLater b c = true) :
    noLater a c = true := by
  -- The order is that of the keys of the scores, turned around.
  simp only [noLater, Decimal.totalLe, decide_eq_true_eq] at *
  omega

theorem noLater_total (a b : Candidate) : (noLater a b || noLater b a) = true := by
  simp only [noLater, Decimal.totalLe, Bool.or_eq_true, decide_eq_true_eq]
  omega

/-- Sorted candidates stand in the order of their positions by points. -/
theorem exists_ranked (candidates : List Candidate) :
    ∃ order, Ranked (candidates.map score) order ∧
      order.map (candidates[·]?) = (sorted candidates).map some := by
  -- The candidates are sorted together with their positions, which break the ties.
  obtain ⟨pairs, paired⟩ :
      ∃ pairs, candidates.zipIdx.mergeSort (List.zipIdxLE noLater) = pairs := ⟨_, rfl⟩
  -- Sorting moves the pairs around, so each still names the position that its candidate stands at.
  have same : pairs.Perm candidates.zipIdx := paired ▸ List.mergeSort_perm _ _
  have found : ∀ pair ∈ pairs, candidates[pair.2]? = some pair.1 := fun pair member =>
    List.mk_mem_zipIdx_iff_getElem?.mp (same.subset member)
  -- The positions are all positions, in the order that sorting has given them.
  have every : (pairs.map Prod.snd).Perm (List.range candidates.length) := by
    have := same.map Prod.snd
    rwa [List.zipIdx_map_snd, ← List.range_eq_range'] at this
  refine ⟨pairs.map Prod.snd, ⟨by simpa using every, ?_⟩, ?_⟩
  · rw [List.pairwise_map]
    -- Equal scores are compared by position, and since no position comes twice the order is strict.
    have ordered : pairs.Pairwise fun a b => List.zipIdxLE noLater a b = true := by
      rw [← paired]
      exact List.pairwise_mergeSort (List.zipIdxLE_trans noLater_trans)
        (List.zipIdxLE_total noLater_total) _
    have distinct : pairs.Pairwise fun a b => a.2 ≠ b.2 :=
      List.pairwise_map.mp (every.nodup_iff.mpr List.nodup_range)
    refine (ordered.and distinct).imp_of_mem fun {a b} left right ⟨before, apart⟩ =>
      ⟨a.1.score, b.1.score, ?_⟩
    simp only [List.getElem?_map, found _ left, found _ right, Option.map_some, true_and]
    -- A higher score comes first, and of equal scores the earlier position.
    simp only [List.zipIdxLE, noLater, Decimal.totalLe, decide_eq_true_eq] at before
    split at before
    · split at before
      · have := of_decide_eq_true before
        omega
      · omega
    · cases before
  -- Sorting with positions moves the candidates just as the stable sort without them does.
  · have listed : pairs.map Prod.fst = sorted candidates := by
      rw [← paired]
      exact List.mergeSort_zipIdx
    rw [← listed, List.map_map, List.map_map]
    exact List.map_congr_left found

end Candidate

namespace Slot

/-- Where there are no candidates or none are asked for, none are picked and nothing is drawn. -/
theorem pickMost_nothing {slot : Slot} {candidates : List Candidate} {count : Nat}
    (nothing : candidates = [] ∨ count = 0) (source : Random.Source) :
    slot.pickMost candidates count source = ([], source) := by
  unfold pickMost
  rcases nothing with rfl | rfl
  · -- No candidates are sorted to none, from which none are taken either way.
    have sorted : Candidate.sorted [] = [] := List.mergeSort_nil
    rw [sorted]
    cases count <;> simp [pickTied]
  · simp [pickTied]

/-- By the most points a slot picks the records of the candidates that it picks. -/
theorem selectCount_pickMost {slot : Slot} (byPoints : slot.policy = .mostPoints) (mode : CaseMode)
    (records : List Record) (count : Nat) (source : Random.Source) :
    slot.selectCount mode records count source =
      (.ok ((slot.pickMost (slot.candidates mode records) count source).1.map Candidate.record),
        (slot.pickMost (slot.candidates mode records) count source).2) := by
  unfold selectCount
  dsimp only
  split
  · rename_i nothing
    -- The early return gives what the pick would have given.
    have nothing : slot.candidates mode records = [] ∨ count = 0 := by
      refine ((Bool.or_eq_true _ _).mp nothing).imp (fun empty => ?_) of_decide_eq_true
      rw [candidates, List.isEmpty_iff.mp empty]
      rfl
    rw [pickMost_nothing nothing]
    rfl
  · rw [byPoints]
    rfl

/-- Without a tie threshold a slot picks from the front of the order by points, and draws nothing. What it
picks outranks what it leaves. -/
theorem selectCount_ranked {slot : Slot} (byPoints : slot.policy = .mostPoints)
    (exact : slot.tieThreshold ≤ 0.0) (mode : CaseMode) (records : List Record) (count : Nat)
    (source : Random.Source) :
    ∃ order picks, Ranked (slot.scores mode (slot.eligible records)) order ∧
      slot.selectCount mode records count source = (.ok picks, source) ∧
      (order.take count).map ((slot.eligible records)[·]?) = picks.map some ∧
      picks.length = min count (slot.eligible records).length ∧
      ∀ picked ∈ order.take count, ∀ left ∈ order.drop count,
        Outranks (slot.scores mode (slot.eligible records)) picked left := by
  obtain ⟨order, ranked, listed⟩ := Candidate.exists_ranked (slot.candidates mode records)
  rw [map_score_candidates] at ranked
  -- Without a threshold the picks are the front of the sorted candidates, and no draw is made.
  have taken : slot.pickMost (slot.candidates mode records) count source =
      ((Candidate.sorted (slot.candidates mode records)).take count, source) := if_pos exact
  refine ⟨order, ((Candidate.sorted (slot.candidates mode records)).take count).map Candidate.record,
    ranked, ?_, ?_, ?_, ?_⟩
  · rw [selectCount_pickMost byPoints, taken]
  -- The candidates stand at the positions of their records.
  · calc (order.take count).map ((slot.eligible records)[·]?)
        = ((order.map ((slot.candidates mode records)[·]?)).take count).map
            (Option.map Candidate.record) := by
          rw [← List.map_take, List.map_map]
          exact List.map_congr_left fun position _ => slot.getElem?_eligible mode records position
      _ = (((Candidate.sorted (slot.candidates mode records)).take count).map Candidate.record).map
            some := by
          rw [listed, ← List.map_take, List.map_map, List.map_map]
          rfl
  · have same : (Candidate.sorted (slot.candidates mode records)).length =
        (slot.candidates mode records).length := List.length_mergeSort _
    rw [List.length_map, List.length_take, same, ← List.length_map Candidate.record,
      map_record_candidates]
  · -- The order falls into what is picked and what is left.
    have split := ranked.outranks
    rw [← List.take_append_drop count order, List.pairwise_append] at split
    exact split.2.2

/-- A record with nothing but an identity and a converted mana cost. -/
def costing (number : UInt32) (cost : Float) : Record :=
  ⟨⟨number⟩, fun _ => .absent, fun _ => .number cost⟩

/-- A slot that prefers high costs, except for one card. -/
def ascetic : Slot where
  rankings := [⟨.cmc, .most, 10.0⟩]
  policy := .mostPoints
  blacklist := [⟨4⟩]

/-- Four records that this slot may pick, three of them with the same cost, and one that it may not. -/
def evenly : List Record := [costing 1 1.0, costing 4 9.0, costing 2 1.0, costing 3 2.0, costing 5 1.0]

/-- The highest score comes first, and the equal ones stay as they were. -/
theorem sorted_evenly : Candidate.sorted (ascetic.candidates .strict evenly) =
    [⟨costing 3 2.0, 10.0⟩, ⟨costing 1 1.0, 5.0⟩, ⟨costing 2 1.0, 5.0⟩, ⟨costing 5 1.0, 5.0⟩] := by
  -- Half of the points go to half of the cost.
  have scored : ascetic.candidates .strict evenly =
      [⟨costing 1 1.0, 5.0⟩, ⟨costing 2 1.0, 5.0⟩, ⟨costing 3 2.0, 10.0⟩, ⟨costing 5 1.0, 5.0⟩] := rfl
  -- Three comparisons of scores are all that sorting asks for.
  have same : Decimal.totalLe 5.0 5.0 = true := by decide
  have less : Decimal.totalLe 5.0 10.0 = true := by decide
  have more : Decimal.totalLe 10.0 5.0 = false := by decide
  rw [scored]
  simp [Candidate.sorted, List.mergeSort, List.MergeSort.Internal.splitInTwo, same, less, more]

/-- Of three records with one score the two in front are picked, behind the one with a higher score. -/
theorem selectCount_ranked_ascetic :
    ascetic.policy = .mostPoints ∧ ascetic.tieThreshold ≤ 0.0 ∧
      ∃ order picks, Ranked (ascetic.scores .strict (ascetic.eligible evenly)) order ∧
        ascetic.selectCount .strict evenly 3 (.ofSeed 0) = (.ok picks, .ofSeed 0) ∧
        (order.take 3).map ((ascetic.eligible evenly)[·]?) = picks.map some ∧
        picks.map Record.id = [⟨3⟩, ⟨1⟩, ⟨2⟩] := by
  have exact : ascetic.tieThreshold ≤ 0.0 := by decide
  obtain ⟨order, picks, ranked, selected, placed, -⟩ :=
    @selectCount_ranked ascetic rfl exact .strict evenly 3 (.ofSeed 0)
  refine ⟨rfl, exact, order, picks, ranked, selected, placed, ?_⟩
  -- Only the sorted candidates are needed to say which records these are.
  rw [selectCount_pickMost rfl, pickMost, sorted_evenly, if_pos exact] at selected
  obtain rfl := Except.ok.inj (congrArg Prod.fst selected)
  rfl

end Slot

end Decksmith
