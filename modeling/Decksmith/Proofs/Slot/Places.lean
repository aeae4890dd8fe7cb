import Decksmith.Proofs.Slot.Picks
import Mathlib.Data.List.Nodup

/-! Where the picks of a slot stand: at different positions among the records, none of them blacklisted. -/

namespace Decksmith.Slot

/-- Items that are taken from a list, none of them twice, stand at different positions. -/
theorem exists_positions {α : Type} {taken items : List α} (part : taken.Subperm items) :
    ∃ positions : List Nat, positions.Nodup ∧ positions.map (items[·]?) = taken.map some := by
  obtain ⟨ordered, same, within⟩ := part
  -- Every item is paired with its position, so that taking items takes pairs.
  have paired : items.zipIdx.map Prod.fst = items := by simp
  rw [← paired] at within
  obtain ⟨pairs, listed, rfl⟩ := List.sublist_map_iff.mp within
  obtain ⟨entries, rfl, shuffled⟩ : ∃ entries : List (α × Nat),
      taken = entries.map Prod.fst ∧ entries.Perm pairs := by
    have both : Relation.Comp (· = List.map Prod.fst ·) List.Perm taken pairs := by
      rw [List.eq_map_comp_perm]
      exact same.symm
    exact both
  refine ⟨entries.map Prod.snd, ?_, ?_⟩
  · -- The positions of a list are different from each other.
    have distinct : (items.zipIdx.map Prod.snd).Nodup := by
      rw [List.zipIdx_map_snd]
      exact List.nodup_range'
    exact (shuffled.map Prod.snd).nodup_iff.mpr (distinct.sublist (listed.map Prod.snd))
  · rw [List.map_map, List.map_map]
    refine List.map_congr_left fun entry member => ?_
    exact List.mk_mem_zipIdx_iff_getElem?.mp (listed.subset (shuffled.subset member))

/-- What a filter keeps stands at a position of the list, behind those that are kept in front of it. -/
theorem exists_position_of_filter {α : Type} {keeps : α → Bool} {items : List α} {index : Nat}
    (within : index < (items.filter keeps).length) :
    ∃ position, items[position]? = (items.filter keeps)[index]? ∧
      ((items.take position).filter keeps).length = index := by
  induction items generalizing index with
  | nil => simp at within
  | cons item others ih =>
    by_cases kept : keeps item = true
    · rw [List.filter_cons_of_pos kept] at within ⊢
      cases index with
      | zero => exact ⟨0, rfl, rfl⟩
      | succ index =>
        -- An item that is kept stands in front of the others in both lists.
        obtain ⟨position, found, counted⟩ := ih (Nat.lt_of_succ_lt_succ within)
        refine ⟨position + 1, by simpa using found, ?_⟩
        rw [List.take_succ_cons, List.filter_cons_of_pos kept, List.length_cons, counted]
    · -- One that is dropped moves their positions only.
      rw [List.filter_cons_of_neg kept] at within ⊢
      obtain ⟨position, found, counted⟩ := ih within
      refine ⟨position + 1, by simpa using found, ?_⟩
      rw [List.take_succ_cons, List.filter_cons_of_neg kept, counted]

/-- The place of a position among the eligible records: how many of these stand in front of it. -/
def place (slot : Slot) (records : List Record) (position : Nat) : Nat :=
  (slot.eligible (records.take position)).length

/-- The score of the record at a position, as one of the eligible records. -/
def scoreAt? (slot : Slot) (mode : CaseMode) (records : List Record) (position : Nat) :
    Option Float :=
  (slot.scores mode (slot.eligible records))[slot.place records position]?

/-- What the picks of a slot are: records at different positions, none of them blacklisted, and no more than
are asked for. By the most points there are as many as there can be, and at random each has a positive
score. -/
structure PicksAt (slot : Slot) (mode : CaseMode) (records : List Record) (count : Nat)
    (picks : List Record) (positions : List Nat) : Prop where
  distinct : positions.Nodup
  found : positions.map (records[·]?) = picks.map some
  unlisted : ∀ record ∈ picks, record.id ∉ slot.blacklist
  few : picks.length ≤ count
  most : slot.policy = .mostPoints → picks.length = min count (slot.eligible records).length
  scored : slot.policy = .randomByPointWeight → ∀ position ∈ positions,
    ∃ score, slot.scoreAt? mode records position = some score ∧ score > 0.0

/-- A candidate has the score of its place. -/
theorem score_of_candidates {slot : Slot} {mode : CaseMode} {records : List Record} {index : Nat}
    {candidate : Candidate} (found : (slot.candidates mode records)[index]? = some candidate) :
    (slot.scores mode (slot.eligible records))[index]? = some candidate.score := by
  obtain ⟨record, score, -, scored, rfl⟩ := List.getElem?_zipWith_eq_some.mp found
  exact scored

/-- The place of every candidate is that of a position among the records. -/
theorem exists_position (slot : Slot) {mode : CaseMode} {records : List Record} {index : Nat}
    {candidate : Candidate} (found : (slot.candidates mode records)[index]? = some candidate) :
    ∃ position : Nat, records[position]? = (slot.candidates mode records)[index]?.map Candidate.record ∧
      slot.place records position = index := by
  -- The eligible records are what the blacklist leaves of the records.
  have eligible := slot.getElem?_eligible mode records index
  rw [← eligible]
  rw [found] at eligible
  exact exists_position_of_filter (List.getElem?_eq_some_iff.mp eligible).1

/-- Candidates that stand at different indices stand at different positions among the records. -/
theorem exists_positions_of_candidates {slot : Slot} {mode : CaseMode} {records : List Record}
    {chosen : List Candidate} (part : chosen.Subperm (slot.candidates mode records)) :
    ∃ positions : List Nat, positions.Nodup ∧
      positions.map (records[·]?) = (chosen.map Candidate.record).map some ∧
      ∀ position ∈ positions, ∃ candidate ∈ chosen,
        (slot.candidates mode records)[slot.place records position]? = some candidate := by
  -- The candidates have indices, which are places among the eligible records.
  obtain ⟨indices, apart, listed⟩ := exists_positions part
  have candidate : ∀ index ∈ indices, ∃ candidate ∈ chosen,
      (slot.candidates mode records)[index]? = some candidate := by
    intro index member
    have found := List.mem_map_of_mem (f := ((slot.candidates mode records)[·]?)) member
    rw [listed] at found
    obtain ⟨candidate, present, same⟩ := List.mem_map.mp found
    exact ⟨candidate, present, same.symm⟩
  have placed : ∀ index ∈ indices, ∃ position : Nat,
      records[position]? = (slot.candidates mode records)[index]?.map Candidate.record ∧
        slot.place records position = index := by
    intro index member
    obtain ⟨_, -, found⟩ := candidate index member
    exact slot.exists_position found
  choose! position here counted using placed
  have back : (indices.map position).map (slot.place records) = indices := by
    rw [List.map_map]
    exact (List.map_congr_left counted).trans (List.map_id indices)
  refine ⟨indices.map position, ?_, ?_, ?_⟩
  · -- Different places have different positions, since the positions tell the places.
    exact .of_map _ (back.symm ▸ apart)
  · -- At each position stands the record of the candidate with the index.
    calc (indices.map position).map (records[·]?)
        = (indices.map ((slot.candidates mode records)[·]?)).map (Option.map Candidate.record) := by
          rw [List.map_map, List.map_map]
          exact List.map_congr_left here
      _ = (chosen.map Candidate.record).map some := by
          rw [listed, List.map_map, List.map_map]
          rfl
  · intro spot member
    obtain ⟨index, listed, rfl⟩ := List.mem_map.mp member
    rw [counted index listed]
    exact candidate index listed

/-- Candidates that a slot may choose stand at different positions, with what else holds of picks. -/
theorem Chooses.picksAt {slot : Slot} {mode : CaseMode} {records : List Record} {count : Nat}
    {chosen : List Candidate} (chooses : slot.Chooses mode records count chosen) :
    ∃ positions, slot.PicksAt mode records count (chosen.map Candidate.record) positions := by
  obtain ⟨positions, distinct, found, placed⟩ := exists_positions_of_candidates chooses.part
  refine ⟨positions, distinct, found, ?_, ?_, ?_, ?_⟩
  · intro record member
    -- The blacklist has been taken out before there were candidates.
    have eligible : record ∈ slot.eligible records := by
      rw [← slot.map_record_candidates mode records]
      exact List.map_subset _ chooses.part.subset member
    simpa using List.of_mem_filter eligible
  · rw [List.length_map]
    exact chooses.few
  · intro byPoints
    rw [List.length_map]
    exact chooses.most byPoints
  · intro random position member
    -- The score of the candidate is the one at its place.
    obtain ⟨candidate, present, found⟩ := placed position member
    exact ⟨candidate.score, score_of_candidates found, chooses.scored random candidate present⟩

/-- Whether a slot is told how many records to pick or draws their number itself, its picks are records at
different positions, none of them blacklisted, and no more than this number. By the most points there are as
many as there can be, and at random each has a positive score. -/
theorem picks_at_positions (slot : Slot) (mode : CaseMode) (records : List Record) :
    (∀ count source picks rest, slot.selectCount mode records count source = (.ok picks, rest) →
      ∃ positions, slot.PicksAt mode records count picks positions) ∧
    ∀ deckSize source picks rest, slot.select mode records deckSize source = (.ok picks, rest) →
      ∃ count drawn, slot.quantity.resolve deckSize source = (.ok count, drawn) ∧
        ∃ positions, slot.PicksAt mode records count picks positions := by
  have counted : ∀ count source picks rest,
      slot.selectCount mode records count source = (.ok picks, rest) →
        ∃ positions, slot.PicksAt mode records count picks positions := by
    intro count source picks rest selected
    obtain ⟨chosen, rfl, chooses⟩ := selectCount_chooses selected
    exact chooses.picksAt
  refine ⟨counted, fun deckSize source picks rest selected => ?_⟩
  -- A slot that cannot draw its quantity picks nothing.
  unfold select at selected
  split at selected
  · simp at selected
  · rename_i count drawn resolved
    exact ⟨count, drawn, resolved, counted count drawn picks rest selected⟩

/-- A record with nothing but a name. -/
def called (number : UInt32) (name : String) : Record :=
  ⟨⟨number⟩, fun _ => .text name, fun _ => .absent⟩

/-- A slot that picks at random what is not called "a", except for one card. -/
def picky : Slot where
  filters := [(.test ⟨.name, .none, .notEqual, "a"⟩, 1)]
  blacklist := [⟨2⟩]

/-- Records of which this slot may pick the two that share an identity. -/
def repeating : List Record := [called 3 "c", called 2 "b", called 1 "a", called 3 "c"]

/-- Both records of the repeated card are picked, from different positions. -/
theorem picks_at_positions_picky :
    ∃ picks rest positions,
      picky.selectCount .strict repeating 5 (.ofSeed 0) = (.ok picks, rest) ∧
        picks.map Record.id = [⟨3⟩, ⟨3⟩] ∧
        picky.PicksAt .strict repeating 5 picks positions := by
  -- Which cards are picked is computed, and that positions belong to them is the theorem.
  have chosen : (picky.selectCount .strict repeating 5 (.ofSeed 0)).1.toOption.map
      (List.map Record.id) = some [⟨3⟩, ⟨3⟩] := by decide +kernel
  rcases selected : picky.selectCount .strict repeating 5 (.ofSeed 0) with ⟨_ | picks, rest⟩
  · rw [selected] at chosen
    cases chosen
  · rw [selected] at chosen
    obtain ⟨positions, placed⟩ :=
      (picky.picks_at_positions .strict repeating).1 5 (.ofSeed 0) picks rest selected
    exact ⟨picks, rest, positions, rfl, by simpa [Except.toOption] using chosen, placed⟩

end Decksmith.Slot
