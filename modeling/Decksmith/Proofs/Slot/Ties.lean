import Decksmith.Proofs.Binary64.Increasing
import Decksmith.Proofs.Slot.Ranked
import Mathlib.Data.List.InsertIdx

/-! Ties: what is tied with the best score that is left, and what a tie goes to, at every pick. -/

namespace Decksmith

/-- A scan stops behind all that it looks for, where nothing of it stands behind anything else. -/
theorem takeWhile_eq_filter {α : Type} {sought : α → Bool} {items : List α}
    (front : items.Pairwise fun a b => sought b = true → sought a = true) :
    items.takeWhile sought = items.filter sought := by
  -- The scan and the filter go along the items together until the first one that is not sought.
  induction items with
  | nil => rfl
  | cons first others ih =>
    obtain ⟨ahead, front⟩ := List.pairwise_cons.mp front
    by_cases found : sought first = true
    · rw [List.takeWhile_cons_of_pos found, List.filter_cons_of_pos found, ih front]
    · -- Where the first one is not sought, none behind it is.
      rw [List.takeWhile_cons_of_neg found, List.filter_cons_of_neg found, eq_comm, List.filter_eq_nil_iff]
      exact fun item later sought => found (ahead item later sought)

namespace Candidate

/-- At an index stands the first of the least numbers. -/
structure FirstLeast (values : List Float) (index : Nat) (least : Float) : Prop where
  found : values[index]? = some least
  smallest : ∀ (position : Nat) (value : Float), values[position]? = some value →
    Decimal.orderKey least ≤ Decimal.orderKey value ∧
      (position < index → Decimal.orderKey least < Decimal.orderKey value)

/-- A number at the end is the first least one if it is smaller than that was, and else that still is. -/
theorem FirstLeast.concat {values : List Float} {index : Nat} {least : Float}
    (first : FirstLeast values index least) (value : Float) :
    if Decimal.totalLe least value then FirstLeast (values ++ [value]) index least
    else FirstLeast (values ++ [value]) values.length value := by
  obtain ⟨found, smallest⟩ := first
  have within : index < values.length := (List.getElem?_eq_some_iff.mp found).1
  -- What stands in the longer list stood there before or is the number at the end.
  have stands : ∀ (position : Nat) (other : Float), (values ++ [value])[position]? = some other →
      values[position]? = some other ∨ position = values.length ∧ other = value := by
    intro position other here
    rw [List.getElem?_append] at here
    split at here
    · exact .inl here
    · obtain ⟨place, rfl⟩ := List.getElem?_eq_some_iff.mp here
      rw [List.length_singleton] at place
      exact .inr ⟨by omega, List.getElem_singleton _⟩
  split
  -- The old number stays the least, and the new one stands behind it.
  · rename_i kept
    refine ⟨by rwa [List.getElem?_append_left within], fun position other here => ?_⟩
    rcases stands position other here with before | ⟨rfl, rfl⟩
    · exact smallest position other before
    · have kept : Decimal.orderKey least ≤ Decimal.orderKey other := of_decide_eq_true kept
      exact ⟨kept, fun earlier => by omega⟩
  -- The new number is smaller than the old one, and so than all that were passed.
  · rename_i replaced
    have less : Decimal.orderKey value < Decimal.orderKey least :=
      Int.not_le.mp fun kept => replaced (decide_eq_true kept)
    refine ⟨List.getElem?_concat_length, fun position other here => ?_⟩
    rcases stands position other here with before | ⟨rfl, rfl⟩
    · have := (smallest position other before).1
      omega
    · omega

/-- The search goes on from the first least number of those that it has passed. -/
theorem leastIndexFrom_spec (values : List Float) : ∀ {passed : List Float} {best : Nat} {least : Float},
    FirstLeast passed best least →
      ∃ least', FirstLeast (passed ++ values) (leastIndexFrom best least passed.length values) least' := by
  -- The list of the passed numbers grows by one with each that is looked at.
  induction values with
  | nil => exact fun {_ _ least} first => ⟨least, by rwa [List.append_nil]⟩
  | cons value others ih =>
    intro passed best least first
    have next := first.concat value
    have length : (passed ++ [value]).length = passed.length + 1 := List.length_append
    rw [leastIndexFrom, List.append_cons, ← length]
    split
    -- The best so far stays where it is.
    · rename_i kept
      rw [if_pos kept] at next
      exact ih next
    -- The new number takes its place, at the length of what was passed.
    · rename_i replaced
      rw [if_neg replaced] at next
      exact ih next

/-- The search finds the first least number where there is any. -/
theorem leastIndex_spec {values : List Float} (some : values ≠ []) :
    ∃ least, FirstLeast values (leastIndex values) least := by
  cases values with
  | nil => exact absurd rfl some
  | cons first others =>
    -- The search starts with the first number as the best one.
    refine leastIndexFrom_spec others (⟨rfl, fun position value here => ?_⟩ : FirstLeast [first] 0 first)
    -- A number that stands alone is the least one.
    obtain ⟨place, rfl⟩ := List.getElem?_eq_some_iff.mp here
    simp

end Candidate

/-- The highest score of the positions that have not been picked. -/
structure Highest (scores : List Float) (picked : List Nat) (best : Float) : Prop where
  reached : ∃ position, position ∉ picked ∧ scores[position]? = some best
  bounds : ∀ (position : Nat) (score : Float), position ∉ picked → scores[position]? = some score →
    Decimal.totalLe score best = true

/-- There is only one highest score. -/
theorem Highest.unique {scores : List Float} {picked : List Nat} {best other : Float}
    (first : Highest scores picked best) (second : Highest scores picked other) : best = other := by
  obtain ⟨position, left, here⟩ := first.reached
  obtain ⟨position', left', there⟩ := second.reached
  -- Each of the two is reached somewhere, and the other one is a bound there.
  have upper : Decimal.orderKey best ≤ Decimal.orderKey other :=
    of_decide_eq_true (second.bounds position best left here)
  have lower : Decimal.orderKey other ≤ Decimal.orderKey best :=
    of_decide_eq_true (first.bounds position' other left' there)
  exact Binary64.eq_of_orderKey_eq (Int.le_antisymm upper lower)

/-- No position outranks itself. -/
theorem Outranks.ne {scores : List Float} {position other : Nat} (outranks : Outranks scores position other) :
    position ≠ other := by
  rintro rfl
  obtain ⟨score, lower, here, there, above⟩ := outranks
  -- One position has one score, and it neither is above itself nor stands in front of itself.
  obtain rfl : score = lower := Option.some.inj (here.symm.trans there)
  omega

/-- What outranks another position has no lower score. -/
theorem Outranks.totalLe {scores : List Float} {position other : Nat} {score lower : Float}
    (outranks : Outranks scores position other) (here : scores[position]? = some score)
    (there : scores[other]? = some lower) : Decimal.totalLe lower score = true := by
  -- The scores at both positions are those of the relation.
  obtain ⟨score', lower', here', there', above⟩ := outranks
  obtain rfl : score' = score := Option.some.inj (here'.symm.trans here)
  obtain rfl : lower' = lower := Option.some.inj (there'.symm.trans there)
  exact decide_eq_true (by omega)

/-- The candidates that are left stand in order at the positions that have not been picked. -/
structure Standing (pool : List Candidate) (picked left : List Nat) (order : List Candidate) : Prop where
  placed : left.map (pool[·]?) = order.map some
  outranks : left.Pairwise (Outranks (pool.map Candidate.score))
  rest : ∀ position, position ∈ left ↔ position < pool.length ∧ position ∉ picked

/-- Candidates that stand at positions in order are as many as these. -/
theorem length_placed {pool order : List Candidate} {positions : List Nat}
    (placed : positions.map (pool[·]?) = order.map some) : positions.length = order.length := by
  -- Both sides of the equation have one entry for each.
  simpa using congrArg List.length placed

/-- Each of them stands at its own. -/
theorem getElem?_placed {pool order : List Candidate} {positions : List Nat}
    (placed : positions.map (pool[·]?) = order.map some) {index position : Nat}
    (found : positions[index]? = some position) :
    ∃ candidate, pool[position]? = some candidate ∧ order[index]? = some candidate := by
  -- The equation of the lists holds at every index.
  have same := congrArg (·[index]?) placed
  simp only [List.getElem?_map, found, Option.map_some] at same
  obtain ⟨candidate, here, there⟩ := Option.map_eq_some_iff.mp same.symm
  exact ⟨candidate, there.symm, here⟩

namespace Standing

variable {pool order : List Candidate} {picked left : List Nat}

/-- Sorted candidates stand at all positions before anything is picked. -/
theorem exists_sorted (pool : List Candidate) : ∃ left, Standing pool [] left (Candidate.sorted pool) := by
  -- With nothing picked, the positions that are left are all positions of the pool.
  obtain ⟨left, ⟨every, outranks⟩, placed⟩ := Candidate.exists_ranked pool
  refine ⟨left, placed, outranks, fun position => ?_⟩
  rw [every.mem_iff, List.mem_range, List.length_map]
  exact ⟨fun within => ⟨within, List.not_mem_nil⟩, And.left⟩

/-- A pick takes its position away from those that are left. -/
theorem pick (standing : Standing pool picked left order) {index choice : Nat}
    (found : left[index]? = some choice) :
    Standing pool (picked ++ [choice]) (left.eraseIdx index) (order.eraseIdx index) := by
  obtain ⟨placed, outranks, rest⟩ := standing
  refine ⟨?_, outranks.sublist (List.eraseIdx_sublist left index), fun position => ?_⟩
  -- Both lists lose the entry at the same index, so the rest still fits.
  · rw [← List.eraseIdx_map, ← List.eraseIdx_map, placed]
  · -- No position stands among those that are left twice.
    have distinct : left.Nodup := outranks.imp Outranks.ne
    obtain ⟨within, rfl⟩ := List.getElem?_eq_some_iff.mp found
    rw [← distinct.erase_getElem index within, distinct.mem_erase_iff, rest, List.mem_append,
      List.mem_singleton]
    tauto

/-- The head of the order has the highest score that is left. -/
theorem highest {best : Candidate} {others : List Candidate}
    (standing : Standing pool picked left (best :: others)) :
    Highest (pool.map Candidate.score) picked best.score := by
  obtain ⟨placed, outranks, rest⟩ := standing
  cases left with
  | nil => cases placed
  | cons first later =>
    have head : pool[first]? = some best := (List.cons.inj placed).1
    have here : (pool.map Candidate.score)[first]? = some best.score := by
      rw [List.getElem?_map, head, Option.map_some]
    -- The first position is one that is left, so its score is reached.
    have free : first ∉ picked := ((rest first).mp List.mem_cons_self).2
    refine ⟨⟨first, free, here⟩, fun position score free there => ?_⟩
    have within : position < pool.length := by
      simpa using (List.getElem?_eq_some_iff.mp there).1
    -- Any other position that is left is outranked by the first one.
    rcases List.mem_cons.mp ((rest position).mpr ⟨within, free⟩) with rfl | behind
    · obtain rfl : best.score = score := Option.some.inj (here.symm.trans there)
      exact decide_eq_true (Int.le_refl _)
    · exact ((List.pairwise_cons.mp outranks).1 position behind).totalLe here there

end Standing

namespace Slot

/-- A position is tied with the best that is left: it has not been picked, and its score is no more than the
threshold below the highest score of those. -/
def TiedAt (slot : Slot) (scores : List Float) (picked : List Nat) (position : Nat) : Prop :=
  position ∉ picked ∧ ∃ score best, scores[position]? = some score ∧ Highest scores picked best ∧
    score ≥ best - slot.tieThreshold

/-- A tie goes to one position rather than to another: its value of the key is smaller, or it is the same and
the position outranks the other one. -/
def Prefers (key : SortKey) (pool : List Candidate) (choice other : Nat) : Prop :=
  ∃ chosen passed, pool[choice]? = some chosen ∧ pool[other]? = some passed ∧
    (Decimal.orderKey (chosen.tieValue key) < Decimal.orderKey (passed.tieValue key) ∨
      Decimal.orderKey (chosen.tieValue key) = Decimal.orderKey (passed.tieValue key) ∧
        Outranks (pool.map Candidate.score) choice other)

/-- One pick: the scan of what is left finds all tied positions, and the tie goes to one of them. -/
structure BreaksTie (slot : Slot) (pool : List Candidate) (picked : List Nat) (order : List Candidate)
    (source : Random.Source) (tied : List Nat) (choice : Nat) : Prop where
  scanned : ∃ best others, order = best :: others ∧
    tied.map (pool[·]?) = (slot.tied best order).map some
  exact : ∀ position, position ∈ tied ↔ slot.TiedAt (pool.map Candidate.score) picked position
  chosen : choice ∈ tied
  drawn : slot.tieBreak = .random → tied[(source.position? tied.length).1.getD 0]? = some choice
  least : ∀ key, slot.tieBreak = .ascending key → ∀ other ∈ tied, other ≠ choice →
    Prefers key pool choice other

/-- Whether a position has a score that is no more than the threshold below the best one. -/
def close (slot : Slot) (pool : List Candidate) (best : Candidate) (position : Nat) : Bool :=
  pool[position]?.any (·.score ≥ best.score - slot.tieThreshold)

theorem close_iff {slot : Slot} {pool : List Candidate} {best : Candidate} {position : Nat} :
    slot.close pool best position = true ↔
      ∃ score, (pool.map Candidate.score)[position]? = some score ∧
        best.score - slot.tieThreshold ≤ score := by
  simp [close, Option.any_eq_true]

section Pick

variable {slot : Slot} {pool : List Candidate} {picked left : List Nat} {best : Candidate}
  {others : List Candidate}

/-- A scan of the positions finds those of the candidates that a scan of the order finds. -/
theorem map_takeWhile_close {order : List Candidate} (placed : left.map (pool[·]?) = order.map some) :
    (left.takeWhile (slot.close pool best)).map (pool[·]?) = (slot.tied best order).map some :=
  -- Whether a position is close depends on its candidate only.
  calc (left.takeWhile (slot.close pool best)).map (pool[·]?)
      = (left.map (pool[·]?)).takeWhile (·.any (·.score ≥ best.score - slot.tieThreshold)) :=
        List.takeWhile_map.symm
    _ = (order.map some).takeWhile (·.any (·.score ≥ best.score - slot.tieThreshold)) := by rw [placed]
    _ = (slot.tied best order).map some := List.takeWhile_map

/-- Scores are compared as numbers, so what outranks a close position is close itself. -/
theorem close_of_outranks (numbers : ∀ score ∈ pool.map Candidate.score, score.isNaN = false)
    {position other : Nat} (outranks : Outranks (pool.map Candidate.score) position other)
    (near : slot.close pool best other = true) : slot.close pool best position = true := by
  obtain ⟨lower, there, near⟩ := close_iff.mp near
  have ⟨score, _, here, _⟩ := outranks
  -- For numbers the total order agrees with the order that the threshold is compared in.
  have above : lower ≤ score := Binary64.le_of_totalLe (numbers lower (List.mem_of_getElem? there))
    (numbers score (List.mem_of_getElem? here)) (outranks.totalLe here there)
  exact close_iff.mpr ⟨score, here, Binary64.float_le_trans near above⟩

/-- The scan of what is left finds all positions that are tied, and never none. -/
theorem exists_tied (positive : 0.0 < slot.tieThreshold) (finite : slot.tieThreshold.isFinite = true)
    (numbers : ∀ score ∈ pool.map Candidate.score, score.isNaN = false)
    (standing : Standing pool picked left (best :: others)) :
    ∃ tied, tied <+: left ∧ tied ≠ [] ∧
      tied.map (pool[·]?) = (slot.tied best (best :: others)).map some ∧
      ∀ position, position ∈ tied ↔ slot.TiedAt (pool.map Candidate.score) picked position := by
  -- Since scores fall along the order, the scan stops behind the last one that is close enough.
  have scanned : (left.takeWhile (slot.close pool best)).map (pool[·]?) =
      (slot.tied best (best :: others)).map some := map_takeWhile_close standing.placed
  refine ⟨_, List.takeWhile_prefix _, fun none => ?_, scanned, fun position => ?_⟩
  · -- The best score is tied with itself.
    obtain ⟨_, -, here⟩ := standing.highest.reached
    have near : best.score - slot.tieThreshold ≤ best.score :=
      Binary64.sub_le_self (numbers best.score (List.mem_of_getElem? here)) positive finite
    simp [none, tied, near] at scanned
  · have all : left.takeWhile (slot.close pool best) = left.filter (slot.close pool best) :=
      takeWhile_eq_filter (standing.outranks.imp (close_of_outranks numbers))
    rw [all, List.mem_filter, standing.rest, close_iff]
    constructor
    -- What is left has not been picked, and closeness is measured from the head of the order.
    · rintro ⟨⟨-, free⟩, score, here, near⟩
      exact ⟨free, score, best.score, here, standing.highest, near⟩
    -- The highest score is unique, so it is that of the head.
    · rintro ⟨free, score, highest, here, bounds, near⟩
      obtain rfl := bounds.unique standing.highest
      have within : position < pool.length := by
        simpa using (List.getElem?_eq_some_iff.mp here).1
      exact ⟨⟨within, free⟩, score, here, near⟩

/-- The first least value of a key among tied positions is preferred to all others. -/
theorem prefers_of_firstLeast {key : SortKey} {tied : List Nat} {candidates : List Candidate}
    (outranks : tied.Pairwise (Outranks (pool.map Candidate.score)))
    (placed : tied.map (pool[·]?) = candidates.map some) {index choice : Nat} {least : Float}
    (first : Candidate.FirstLeast (candidates.map (Candidate.tieValue key)) index least)
    (found : tied[index]? = some choice) {other : Nat} (member : other ∈ tied) (apart : other ≠ choice) :
    Prefers key pool choice other := by
  -- Both positions are found at indices among the tied ones, and their candidates at the same indices.
  obtain ⟨place, there⟩ := List.getElem?_of_mem member
  obtain ⟨chosen, stands, listed⟩ := getElem?_placed placed found
  obtain ⟨passed, stands', listed'⟩ := getElem?_placed placed there
  obtain rfl : chosen.tieValue key = least := by
    simpa [listed] using first.found
  obtain ⟨least, earlier⟩ := first.smallest place (passed.tieValue key) (by simp [listed'])
  refine ⟨chosen, passed, stands, stands', ?_⟩
  rcases Nat.lt_trichotomy place index with before | rfl | behind
  -- What stands in front of the first least value has a larger one.
  · exact .inl (earlier before)
  · exact absurd (Option.some.inj (there.symm.trans found)) apart
  · -- What stands behind may have the same value, but then it is outranked.
    refine (Int.lt_or_eq_of_le least).imp id fun same => ⟨same, ?_⟩
    obtain ⟨within, rfl⟩ := List.getElem?_eq_some_iff.mp found
    obtain ⟨within', rfl⟩ := List.getElem?_eq_some_iff.mp there
    exact List.pairwise_iff_getElem.mp outranks index place within within' behind

/-- A drawn index breaks a tie at random. -/
theorem breaksTie_random {source : Random.Source} {tied : List Nat} {choice : Nat}
    (random : slot.tieBreak = .random)
    (scanned : tied.map (pool[·]?) = (slot.tied best (best :: others)).map some)
    (exact : ∀ position, position ∈ tied ↔ slot.TiedAt (pool.map Candidate.score) picked position)
    (found : tied[(source.position? tied.length).1.getD 0]? = some choice) :
    slot.BreaksTie pool picked (best :: others) source tied choice where
  scanned := ⟨best, others, rfl, scanned⟩
  exact := exact
  chosen := List.mem_of_getElem? found
  drawn _ := found
  least key ascending := by
    rw [random] at ascending
    cases ascending

/-- The first least value of the key breaks a tie by that key. -/
theorem breaksTie_ascending {source : Random.Source} {key : SortKey} {tied : List Nat} {choice : Nat}
    {least : Float} (ascending : slot.tieBreak = .ascending key)
    (outranks : tied.Pairwise (Outranks (pool.map Candidate.score)))
    (scanned : tied.map (pool[·]?) = (slot.tied best (best :: others)).map some)
    (exact : ∀ position, position ∈ tied ↔ slot.TiedAt (pool.map Candidate.score) picked position)
    {index : Nat} (first : Candidate.FirstLeast
      ((slot.tied best (best :: others)).map (Candidate.tieValue key)) index least)
    (found : tied[index]? = some choice) :
    slot.BreaksTie pool picked (best :: others) source tied choice where
  scanned := ⟨best, others, rfl, scanned⟩
  exact := exact
  chosen := List.mem_of_getElem? found
  drawn random := by
    rw [ascending] at random
    cases random
  least other same position member apart := by
    -- The slot has one key only.
    obtain rfl : key = other := TieBreak.ascending.inj (ascending.symm.trans same)
    exact prefers_of_firstLeast outranks scanned first found member apart

/-- The tie goes to one of the tied positions, at random or to the one that is preferred to all others. -/
theorem exists_choice (positive : 0.0 < slot.tieThreshold) (finite : slot.tieThreshold.isFinite = true)
    (numbers : ∀ score ∈ pool.map Candidate.score, score.isNaN = false)
    (standing : Standing pool picked left (best :: others)) (source : Random.Source) :
    ∃ tied choice, slot.BreaksTie pool picked (best :: others) source tied choice ∧
      left[(slot.breakTie (slot.tied best (best :: others)) source).1]? = some choice := by
  obtain ⟨tied, begins, some, scanned, exact⟩ := exists_tied positive finite numbers standing
  have outranks := standing.outranks.sublist begins.sublist
  have length : tied.length = (slot.tied best (best :: others)).length := length_placed scanned
  have positive : 0 < tied.length := List.length_pos_iff.mpr some
  -- The tied positions are the first ones of those that are left, so an index among them means the same there.
  have left_of_tied {index choice : Nat} (found : tied[index]? = Option.some choice) :
      left[index]? = Option.some choice := by
    obtain ⟨rest, rfl⟩ := begins
    exact (List.getElem?_append_left (List.getElem?_eq_some_iff.mp found).1).trans found
  unfold breakTie
  cases tieBreak : slot.tieBreak with
  | random =>
    -- An index is drawn below the number of the tied candidates, which is that of the positions.
    have found := List.getElem?_eq_getElem (source.position_lt positive)
    refine ⟨tied, _, breaksTie_random tieBreak scanned exact found, ?_⟩
    dsimp only
    rw [← length]
    exact left_of_tied found
  | ascending key =>
    -- The search for the least value ends at an index of the tied candidates.
    have values : (slot.tied best (best :: others)).map (Candidate.tieValue key) ≠ [] := by
      rw [← List.length_pos_iff, List.length_map, ← length]
      exact positive
    obtain ⟨least, first⟩ := Candidate.leastIndex_spec values
    have within : Candidate.leastIndex ((slot.tied best (best :: others)).map (Candidate.tieValue key)) <
        tied.length := Candidate.leastIndex_lt positive (by simp [length])
    have found := List.getElem?_eq_getElem within
    exact ⟨tied, _, breaksTie_ascending tieBreak outranks scanned exact first found, left_of_tied found⟩

end Pick

/-- What is left of the order after so many picks. -/
def leftover (slot : Slot) : Nat → List Candidate → Random.Source → List Candidate
  | 0, order, _ => order
  | _ + 1, [], _ => []
  | count + 1, best :: others, source =>
    let chosen := slot.breakTie (slot.tied best (best :: others)) source
    slot.leftover count ((best :: others).eraseIdx chosen.1) chosen.2

/-- Picking can stop and go on with what is left. -/
theorem pickTied_add (slot : Slot) (count further : Nat) (order : List Candidate) (source : Random.Source) :
    slot.pickTied (count + further) order source =
      ((slot.pickTied count order source).1 ++
        (slot.pickTied further (slot.leftover count order source) (slot.pickTied count order source).2).1,
      (slot.pickTied further (slot.leftover count order source) (slot.pickTied count order source).2).2) := by
  -- The first picks are made one by one, and each of them leaves a shorter order and a later source.
  induction count generalizing order source with
  | zero => simp [pickTied, leftover]
  | succ count ih =>
    cases order with
    -- Nothing can be picked from an empty order, now or later.
    | nil => cases further <;> simp [pickTied, leftover]
    | cons best others => simp [Nat.succ_add, pickTied, leftover, ih]

/-- So does what is left. -/
theorem leftover_add (slot : Slot) (count further : Nat) (order : List Candidate) (source : Random.Source) :
    slot.leftover (count + further) order source =
      slot.leftover further (slot.leftover count order source) (slot.pickTied count order source).2 := by
  -- The induction is that of the picks themselves.
  induction count generalizing order source with
  | zero => simp [pickTied, leftover]
  | succ count ih =>
    cases order with
    | nil => cases further <;> simp [leftover]
    | cons best others => simp [Nat.succ_add, pickTied, leftover, ih]

/-- Each pick leaves one candidate fewer. -/
theorem length_leftover (slot : Slot) (count : Nat) (order : List Candidate) (source : Random.Source) :
    (slot.leftover count order source).length = order.length - count := by
  induction count generalizing order source with
  | zero => rfl
  | succ count ih =>
    cases order with
    | nil => simp [leftover]
    | cons best others =>
      -- The index that the tie goes to is one of the order, so one candidate is taken away.
      have chosen := slot.breakTie_lt best (best :: others) source (by simp)
      rw [leftover, ih, List.length_eraseIdx_of_lt chosen]
      simp only [List.length_cons]
      omega

/-- A run of picks: positions without repetition, at each step one that the tie goes to. -/
structure PicksTied (slot : Slot) (pool : List Candidate) (order : List Candidate) (source : Random.Source)
    (picks : List Candidate) (positions : List Nat) : Prop where
  placed : positions.map (pool[·]?) = picks.map some
  distinct : positions.Nodup
  breaks : ∀ (step choice : Nat), positions[step]? = some choice → ∃ tied,
    slot.BreaksTie pool (positions.take step) (slot.leftover step order source)
      (slot.pickTied step order source).2 tied choice

/-- Every pick of a run breaks a tie among what is left. -/
theorem exists_picksTied {slot : Slot} (positive : 0.0 < slot.tieThreshold)
    (finite : slot.tieThreshold.isFinite = true) {pool : List Candidate}
    (numbers : ∀ score ∈ pool.map Candidate.score, score.isNaN = false) {order : List Candidate}
    {left : List Nat} (standing : Standing pool [] left order) (source : Random.Source) (count : Nat) :
    ∃ positions rest, slot.PicksTied pool order source (slot.pickTied count order source).1 positions ∧
      Standing pool positions rest (slot.leftover count order source) := by
  -- The induction appends one pick to the run, which leaves all earlier picks as they are.
  induction count with
  | zero => exact ⟨[], left, ⟨rfl, List.nodup_nil, by simp⟩, standing⟩
  | succ count ih =>
    obtain ⟨positions, rest, ⟨placed, distinct, breaks⟩, standing⟩ := ih
    rw [pickTied_add, leftover_add]
    -- As many positions have been picked as were asked for, or all of them.
    have length : positions.length = min count order.length := by
      rw [length_placed placed, length_pickTied]
    have fewer := slot.length_leftover count order source
    cases further : slot.leftover count order source with
    | nil =>
      -- Nothing is left to pick.
      rw [further] at standing
      exact ⟨positions, rest, ⟨by simpa [pickTied] using placed, distinct, breaks⟩,
        by simpa [leftover] using standing⟩
    | cons best others =>
      rw [further] at standing fewer
      -- Something is left, so none of the picks so far found the order empty.
      have all : positions.length = count := by
        rw [List.length_cons] at fewer
        omega
      obtain ⟨tied, choice, tie, found⟩ :=
        exists_choice positive finite numbers standing (slot.pickTied count order source).2
      obtain ⟨candidate, stands, listed⟩ := getElem?_placed standing.placed found
      -- What is tied has not been picked, so the positions stay distinct.
      have free : choice ∉ positions := ((tie.exact choice).mp tie.chosen).1
      refine ⟨positions ++ [choice], _, ⟨?_, ?_, fun step picked here => ?_⟩, standing.pick found⟩
      · simp [pickTied, placed, stands, listed]
      · refine List.nodup_append.mpr ⟨distinct, List.nodup_singleton choice, ?_⟩
        rintro position member other single rfl
        exact free (List.mem_singleton.mp single ▸ member)
      · -- The last position is the new one, and the others are as they were.
        rcases Nat.lt_or_ge step positions.length with earlier | last
        · rw [List.getElem?_append_left earlier] at here
          rw [List.take_append_of_le_length (Nat.le_of_lt earlier)]
          exact breaks step picked here
        · rw [List.getElem?_append_right last] at here
          obtain ⟨place, rfl⟩ := List.getElem?_eq_some_iff.mp here
          obtain rfl : step = count := by
            rw [List.length_singleton] at place
            omega
          rw [List.take_left' all, further, List.getElem_singleton]
          exact ⟨tied, tie⟩

/-- With a tie threshold a slot picks by the most points as long as there are not enough and some are left:
every time one of the positions that are tied with the best that is left, by the smallest value of a key or
at random. -/
theorem pickMost_tied {slot : Slot} (byPoints : slot.policy = .mostPoints)
    (positive : 0.0 < slot.tieThreshold) (finite : slot.tieThreshold.isFinite = true) (count : Nat)
    (source : Random.Source) :
    (∀ mode records, slot.selectCount mode records count source =
      (.ok ((slot.pickMost (slot.candidates mode records) count source).1.map Candidate.record),
        (slot.pickMost (slot.candidates mode records) count source).2)) ∧
    ∀ pool : List Candidate, (∀ score ∈ pool.map Candidate.score, score.isNaN = false) →
      ∃ positions, positions.length = min count pool.length ∧
        slot.PicksTied pool (Candidate.sorted pool) source (slot.pickMost pool count source).1
          positions := by
  refine ⟨fun mode records => selectCount_pickMost byPoints mode records count source,
    fun pool numbers => ?_⟩
  obtain ⟨left, standing⟩ := Standing.exists_sorted pool
  obtain ⟨positions, -, picked, -⟩ := exists_picksTied positive finite numbers standing source count
  -- A threshold above zero sends the pick to the branch that breaks ties.
  have taken : slot.pickMost pool count source = slot.pickTied count (Candidate.sorted pool) source :=
    if_neg (Binary64.not_le_of_lt positive)
  rw [taken]
  refine ⟨positions, ?_, picked⟩
  rw [length_placed picked.placed, ← taken, length_pickMost]

/-- The same slot as the ascetic one, but it takes cheap records if their scores are close enough. -/
def lenient : Slot :=
  { ascetic with tieBreak := .ascending .cmc, tieThreshold := 5.0 }

/-- All records are tied, so that the cheap ones are picked before the one with the highest score. -/
theorem pickMost_tied_lenient :
    lenient.policy = .mostPoints ∧ 0.0 < lenient.tieThreshold ∧ lenient.tieThreshold.isFinite = true ∧
      (∀ score ∈ (lenient.candidates .strict evenly).map Candidate.score, score.isNaN = false) ∧
      ∃ picks rest positions, lenient.selectCount .strict evenly 3 (.ofSeed 0) =
          (.ok (picks.map Candidate.record), rest) ∧
        positions.length = 3 ∧
        lenient.PicksTied (lenient.candidates .strict evenly)
          (Candidate.sorted (lenient.candidates .strict evenly)) (.ofSeed 0) picks positions ∧
        picks.map (·.record.id) = [⟨1⟩, ⟨2⟩, ⟨5⟩] := by
  have positive : 0.0 < lenient.tieThreshold := by decide
  have finite : lenient.tieThreshold.isFinite = true := by decide
  -- The five records have their scores evenly spread, none of them undefined.
  have numbers : ∀ score ∈ (lenient.candidates .strict evenly).map Candidate.score,
      score.isNaN = false := by decide
  obtain ⟨selected, tied⟩ := @pickMost_tied lenient rfl positive finite 3 (.ofSeed 0)
  obtain ⟨positions, length, picked⟩ := tied (lenient.candidates .strict evenly) numbers
  refine ⟨rfl, positive, finite, numbers, _, _, positions, selected .strict evenly, length, picked, ?_⟩
  -- The sorted candidates are known, so that only the picks have to be computed.
  have sorted : Candidate.sorted (lenient.candidates .strict evenly) = _ := sorted_evenly
  rw [pickMost, sorted, if_neg (Binary64.not_le_of_lt positive)]
  decide +kernel

end Slot

end Decksmith
