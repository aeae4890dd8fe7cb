import Decksmith.Proofs.Ranking
import Decksmith.Proofs.Slot.Admission
import Decksmith.Proofs.Slot.Ranked

/-! The order in which records come to a slot makes no difference: every record keeps its score wherever it
stands, and where no two scores are equal the same records are picked. -/

namespace Decksmith

/-- The same items in another order, which names for each place the position where its item has stood. -/
structure Reordered {α : Type} (order : List Nat) (items others : List α) : Prop where
  every : order.Perm (List.range items.length)
  placed : others.map some = order.map (items[·]?)

namespace Reordered

variable {α β : Type} {order : List Nat} {items others : List α}

/-- No item is lost in another order, and none comes twice. -/
theorem perm (reordered : Reordered order items others) : others.Perm items := by
  -- All positions in a row list all items.
  have listed : (List.range items.length).map (items[·]?) = items.map some := by
    refine List.ext_getElem (by simp) fun index within _ => ?_
    simp only [List.getElem_map, List.getElem_range]
    exact List.getElem?_eq_getElem (by simpa using within)
  -- Going through the positions in another order meets the same items.
  have same : (others.map some).Perm (items.map some) := by
    rw [reordered.placed, ← listed]
    exact reordered.every.map _
  exact (List.map_perm_map_iff (Option.some_injective α)).mp same

/-- What is made of each item stands in the other order as the items do. -/
theorem map (reordered : Reordered order items others) (f : α → β) :
    Reordered order (items.map f) (others.map f) where
  -- The order itself is the same one, so only the items behind its positions change.
  every := by
    rw [List.length_map]
    exact reordered.every
  placed := by
    calc (others.map f).map some
        = (others.map some).map (Option.map f) := by
          rw [List.map_map, List.map_map]
          rfl
      _ = order.map ((items.map f)[·]?) := by
          rw [reordered.placed, List.map_map]
          exact List.map_congr_left fun position _ => List.getElem?_map.symm

end Reordered

namespace Slot

/-- Rankings add to the points of each record what it scores among all of them. -/
theorem foldl_addRanking (records : List Record) (rankings : List Ranking) (points : Record → Float) :
    rankings.foldl (addRanking records) (records.map points) =
      records.map fun record => rankings.foldl (fun points ranking =>
        points + (ranking.score? records record).getD 0.0) (points record) := by
  -- As for the filters, the induction carries the points that have been given so far.
  induction rankings generalizing points with
  | nil => rfl
  | cons ranking others ih =>
    -- One ranking adds to each record's points what the record scores.
    have one : addRanking records (records.map points) ranking = records.map fun record =>
        points record + (ranking.score? records record).getD 0.0 := by
      rw [addRanking, List.zipWith_map_left, List.zipWith_self]
      rfl
    rw [List.foldl_cons, one, ih]
    rfl

/-- The score of a record among others: what the rankings give for it, and the weights of the filters that
select it. -/
def scoreAmong (slot : Slot) (mode : CaseMode) (records : List Record) (record : Record) : Float :=
  slot.filters.foldl
    (fun points filter => if filter.1.marks mode record then points + Float.ofInt filter.2 else points)
    (slot.rankings.foldl
      (fun points ranking => points + (ranking.score? records record).getD 0.0) 0.0)

/-- Every record has its own score, wherever it stands. -/
theorem scores_eq_map_scoreAmong (slot : Slot) (mode : CaseMode) (records : List Record) :
    slot.scores mode records = records.map (slot.scoreAmong mode records) := by
  rw [scores, foldl_addRanking, foldl_addFilter]
  rfl

/-- The candidates are the eligible records with their scores among each other. -/
theorem candidates_eq_map (slot : Slot) (mode : CaseMode) (records : List Record) :
    slot.candidates mode records = (slot.eligible records).map fun record =>
      ⟨record, slot.scoreAmong mode (slot.eligible records) record⟩ := by
  -- Each record is paired with its own score.
  rw [candidates, scores_eq_map_scoreAmong, List.zipWith_map_right, List.zipWith_self]

variable {slot : Slot} {mode : CaseMode} {records others : List Record}

/-- Where cards differ, the score of a record does not depend on the order in which the records come. -/
theorem scoreAmong_of_perm (distinct : (records.map Record.id).Nodup) (same : others.Perm records)
    {record : Record} (member : record ∈ records) :
    slot.scoreAmong mode others record = slot.scoreAmong mode records record := by
  -- The filters look at the record alone, so only the rankings are to be compared.
  have ranked : (fun (points : Float) (ranking : Ranking) =>
      points + (ranking.score? others record).getD 0.0) =
      fun points ranking => points + (ranking.score? records record).getD 0.0 := by
    funext points ranking
    rw [Ranking.score?_eq_of_perm distinct same member]
  rw [scoreAmong, ranked, scoreAmong]

/-- Nor do the scores of all of them. -/
theorem scores_of_perm (distinct : (records.map Record.id).Nodup) (same : others.Perm records) :
    slot.scores mode others = others.map (slot.scoreAmong mode records) := by
  rw [scores_eq_map_scoreAmong]
  exact List.map_congr_left fun record member =>
    scoreAmong_of_perm distinct same (same.mem_iff.mp member)

/-- The candidates are the same ones in whatever order the records come. -/
theorem candidates_perm (distinct : (records.map Record.id).Nodup) (same : others.Perm records) :
    (slot.candidates mode others).Perm (slot.candidates mode records) := by
  have eligible : (slot.eligible others).Perm (slot.eligible records) := same.filter _
  have differ : ((slot.eligible records).map Record.id).Nodup :=
    distinct.sublist (List.filter_sublist.map Record.id)
  -- The scores are those among the eligible records, which are the same ones as well.
  rw [candidates, scores_of_perm differ eligible, List.zipWith_map_right, List.zipWith_self,
    candidates_eq_map]
  exact eligible.map _

/-- Candidates with different scores can be sorted in one way only. -/
theorem sorted_eq_of_perm {candidates rivals : List Candidate}
    (differ : (candidates.map Candidate.score).Nodup) (same : rivals.Perm candidates) :
    Candidate.sorted rivals = Candidate.sorted candidates := by
  -- Both sorted lists are in order and hold the same candidates.
  have ordered : ∀ listed : List Candidate,
      (Candidate.sorted listed).Pairwise fun a b => Candidate.noLater a b = true := fun listed =>
    List.pairwise_mergeSort Candidate.noLater_trans Candidate.noLater_total listed
  have kept : ∀ listed : List Candidate, (Candidate.sorted listed).Perm listed := fun listed =>
    List.mergeSort_perm listed _
  refine List.Perm.eq_of_pairwise ?_ (ordered rivals) (ordered candidates)
    ((kept rivals).trans (same.trans (kept candidates).symm))
  intro a b left right before after
  have first : a ∈ candidates := same.mem_iff.mp ((kept rivals).mem_iff.mp left)
  have second : b ∈ candidates := (kept candidates).mem_iff.mp right
  -- Two that come no later than each other have one score, and that belongs to one candidate.
  refine List.inj_on_of_nodup_map differ first second (Binary64.eq_of_orderKey_eq ?_)
  simp only [Candidate.noLater, Decimal.totalLe, decide_eq_true_eq] at before after
  omega

/-- Where cards differ, records in another order have their scores in that order. If a slot goes by the most
points, without a tie threshold, and no two of the records that it may pick have the same score, then it picks
the same records one after the other, and draws nothing. -/
theorem scores_reordered (slot : Slot) (mode : CaseMode) {records : List Record}
    (distinct : (records.map Record.id).Nodup) :
    (∀ order others, Reordered order records others →
      Reordered order (slot.scores mode records) (slot.scores mode others)) ∧
    (slot.policy = .mostPoints → slot.tieThreshold ≤ 0.0 →
      (slot.scores mode (slot.eligible records)).Nodup →
      ∀ others : List Record, others.Perm records → ∀ count source, ∃ picks,
        slot.selectCount mode records count source = (.ok picks, source) ∧
          slot.selectCount mode others count source = (.ok picks, source)) := by
  refine ⟨fun order others reordered => ?_, fun byPoints exact differ others same count source => ?_⟩
  · -- One function gives the scores in both orders.
    rw [scores_of_perm distinct reordered.perm, scores_eq_map_scoreAmong]
    exact reordered.map _
  · rw [← map_score_candidates] at differ
    -- The candidates are the same and sort to the same list, whose front is what is picked.
    have sorted := sorted_eq_of_perm differ (candidates_perm distinct same)
    have taken : ∀ among, slot.pickMost (slot.candidates mode among) count source =
        ((Candidate.sorted (slot.candidates mode among)).take count, source) := fun _ => if_pos exact
    refine ⟨((Candidate.sorted (slot.candidates mode records)).take count).map Candidate.record, ?_, ?_⟩
    · rw [selectCount_pickMost byPoints, taken]
    · rw [selectCount_pickMost byPoints, taken, sorted]

/-- A slot that prefers low costs, except for one card. -/
def frugal : Slot where
  rankings := [⟨.cmc, .least, 10.0⟩]
  policy := .mostPoints
  blacklist := [⟨4⟩]

/-- Three records that this slot may pick, with different costs, and one that it may not. -/
def spread : List Record := [costing 1 1.0, costing 2 2.0, costing 3 4.0, costing 4 9.0]

/-- The same records in another order. -/
def spreadAnew : List Record := [costing 3 4.0, costing 1 1.0, costing 4 9.0, costing 2 2.0]

/-- Both orders have the scores in their order, and the two cheapest records are picked from either. -/
theorem scores_reordered_frugal :
    (spread.map Record.id).Nodup ∧ Reordered [2, 0, 3, 1] spread spreadAnew ∧
      frugal.policy = .mostPoints ∧ frugal.tieThreshold ≤ 0.0 ∧
      (frugal.scores .strict (frugal.eligible spread)).Nodup ∧
      Reordered [2, 0, 3, 1] (frugal.scores .strict spread) (frugal.scores .strict spreadAnew) ∧
      ∃ picks, frugal.selectCount .strict spread 2 (.ofSeed 0) = (.ok picks, .ofSeed 0) ∧
        frugal.selectCount .strict spreadAnew 2 (.ofSeed 0) = (.ok picks, .ofSeed 0) ∧
        picks.map Record.id = [⟨1⟩, ⟨2⟩] := by
  have distinct : (spread.map Record.id).Nodup := by decide
  have reordered : Reordered [2, 0, 3, 1] spread spreadAnew := ⟨by decide, rfl⟩
  have exact : frugal.tieThreshold ≤ 0.0 := by decide
  have differ : (frugal.scores .strict (frugal.eligible spread)).Nodup := by decide +kernel
  obtain ⟨scored, selected⟩ := scores_reordered frugal .strict distinct
  obtain ⟨picks, first, second⟩ :=
    selected rfl exact differ spreadAnew reordered.perm 2 (.ofSeed 0)
  refine ⟨distinct, reordered, rfl, exact, differ, scored _ _ reordered, picks, first, second, ?_⟩
  -- The candidates stand in the order of their points from the start.
  have sorted : Candidate.sorted (frugal.candidates .strict spread) =
      [⟨costing 1 1.0, 7.5⟩, ⟨costing 2 2.0, 5.0⟩, ⟨costing 3 4.0, 0.0⟩] :=
    List.mergeSort_of_pairwise (by decide +kernel)
  rw [selectCount_pickMost rfl, pickMost, sorted, if_pos exact] at first
  obtain rfl := Except.ok.inj (congrArg Prod.fst first)
  rfl

end Slot

end Decksmith
