import Decksmith.Proofs.Query.Agreement
import Decksmith.Proofs.Slot.Picks
import Mathlib.Tactic.ByContra

/-! What a slot lets into a deck: nothing from its blacklist, and at random without rankings only what one
of its filters holds of. -/

namespace Decksmith.Slot

/-- What has to hold of a record before a slot may pick it. -/
structure Admits (slot : Slot) (mode : CaseMode) (record : Record) : Prop where
  unlisted : record.id ∉ slot.blacklist
  matched : slot.policy = .randomByPointWeight → slot.rankings = [] →
    ∃ filter ∈ slot.filters, filter.1.holds mode record = true

/-- The points that a record gets from the filters of a slot. -/
def filterPoints (slot : Slot) (mode : CaseMode) (record : Record) : Float :=
  slot.filters.foldl
    (fun points filter =>
      if filter.1.marks mode record then points + Float.ofInt filter.2 else points) 0.0

/-- Filters change the points of each record by the record's own bits. -/
theorem foldl_addFilter (mode : CaseMode) (records : List Record) (filters : List (Query × Int))
    (points : Record → Float) :
    filters.foldl (addFilter mode records) (records.map points) =
      records.map fun record => filters.foldl (fun points filter =>
        if filter.1.marks mode record then points + Float.ofInt filter.2 else points)
        (points record) := by
  -- The induction is on the filters, with the points that the earlier ones have given.
  induction filters generalizing points with
  | nil => rfl
  | cons filter others ih =>
    have one : addFilter mode records (records.map points) filter = records.map fun record =>
        if filter.1.marks mode record then points record + Float.ofInt filter.2
        else points record := by
      rw [addFilter, Query.mask_eq_map, List.zipWith_map, List.zipWith_self]
    rw [List.foldl_cons, one, ih]
    rfl

/-- Without rankings the score of a record depends on that record only. -/
theorem scores_eq_map {slot : Slot} (unranked : slot.rankings = []) (mode : CaseMode)
    (records : List Record) : slot.scores mode records = records.map (slot.filterPoints mode) := by
  -- The filters start from zero points for every record.
  rw [scores, unranked]
  exact foldl_addFilter mode records slot.filters fun _ => 0.0

/-- A record with points is held by one of the filters. -/
theorem exists_filter_of_filterPoints {slot : Slot} {mode : CaseMode} {record : Record}
    (positive : slot.filterPoints mode record > 0.0) :
    ∃ filter ∈ slot.filters, filter.1.holds mode record = true := by
  by_contra unmatched
  -- If no filter holds of the record, none of them marks it.
  have unmarked : ∀ filter ∈ slot.filters, filter.1.marks mode record = false := by
    intro filter member
    by_contra marked
    exact unmatched ⟨filter, member, Query.holds_of_marks (by simpa using marked)⟩
  -- No filter adds anything, and the points stay at zero.
  have zero : slot.filterPoints mode record = 0.0 := by
    unfold filterPoints
    generalize slot.filters = filters at unmarked
    induction filters with
    | nil => rfl
    | cons filter others ih =>
      obtain ⟨first, rest⟩ := List.forall_mem_cons.mp unmarked
      rw [List.foldl_cons, first]
      exact ih rest
  rw [zero] at positive
  exact absurd positive (by decide)

/-- At random and without rankings, a slot picks what one of its filters holds of. -/
theorem selectCount_matched {slot : Slot} (random : slot.policy = .randomByPointWeight)
    (unranked : slot.rankings = []) {mode : CaseMode} {records picks : List Record} {count : Nat}
    {source rest : Random.Source}
    (selected : slot.selectCount mode records count source = (.ok picks, rest)) :
    ∀ record ∈ picks, ∃ filter ∈ slot.filters, filter.1.holds mode record = true := by
  obtain ⟨chosen, rfl, chooses⟩ := selectCount_chooses selected
  intro record member
  obtain ⟨candidate, present, rfl⟩ := List.mem_map.mp member
  -- A picked candidate has a positive score, which is what the filters have given to its record.
  have positive := chooses.scored random candidate present
  have listed := chooses.part.subset present
  rw [candidates, scores_eq_map unranked, List.zipWith_map_right, List.zipWith_self] at listed
  obtain ⟨record, -, rfl⟩ := List.mem_map.mp listed
  exact exists_filter_of_filterPoints positive

/-- A slot picks records that it admits. -/
theorem selectCount_admits {slot : Slot} {mode : CaseMode} {records picks : List Record}
    {count : Nat} {source rest : Random.Source}
    (selected : slot.selectCount mode records count source = (.ok picks, rest)) :
    ∀ record ∈ picks, slot.Admits mode record := by
  intro record member
  obtain ⟨-, eligible⟩ := List.mem_filter.mp (selectCount_subset selected member)
  exact ⟨by simpa using eligible,
    fun random unranked => selectCount_matched random unranked selected record member⟩

/-- A slot that draws its quantity picks records that it admits. -/
theorem select_admits {slot : Slot} {mode : CaseMode} {records picks : List Record}
    {deckSize : Option Nat} {source rest : Random.Source}
    (selected : slot.select mode records deckSize source = (.ok picks, rest)) :
    ∀ record ∈ picks, slot.Admits mode record := by
  unfold select at selected
  split at selected
  · simp at selected
  · exact selectCount_admits selected

end Decksmith.Slot
