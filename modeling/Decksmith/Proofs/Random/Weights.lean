import Decksmith.Proofs.Binary64.Sums
import Decksmith.Proofs.Random.Draws

/-! Weighted choices fall on positive weights, or on what is no number; they do not fail as long as some weight is
positive and the total stays finite; and taking a weight away does not make the total infinite. -/

namespace Decksmith.Random.Source

/-- A walk along the weights ends somewhere if it has been somewhere or meets a weight that counts. -/
theorem isSome_walkWeights {weights : List Float} {remaining : Float} {last : Option Nat} {index : Nat}
    (counts : last.isSome = true ∨ ∃ weight ∈ weights, ¬ weight ≤ 0.0) :
    (walkWeights remaining last index weights).isSome = true := by
  -- The induction is on the weights that are left, for any state of the walk.
  induction weights generalizing remaining last index with
  | nil => exact counts.resolve_right (by simp)
  | cons weight others ih =>
    rw [walkWeights]
    split
    · rename_i passed
      -- A weight that is passed over was not the one that counts.
      refine ih (counts.imp_right ?_)
      rintro ⟨found, member, positive⟩
      refine ⟨found, (List.mem_cons.mp member).resolve_left ?_, positive⟩
      rintro rfl
      exact positive passed
    · split
      · rfl
      · exact ih (.inl rfl)

/-- What is added up is positive. -/
theorem positive_of_mem_filter {weights : List Float} :
    ∀ weight ∈ weights.filter (· > 0.0), 0.0 < weight :=
  fun _ kept => by simpa using List.of_mem_filter kept

/-- A positive weight makes the total positive, unless this is no finite number. -/
theorem positiveTotal_pos {weights : List Float} {weight : Float} (member : weight ∈ weights)
    (positive : 0.0 < weight) (finite : (positiveTotal weights).isFinite = true) :
    0.0 < positiveTotal weights := by
  -- The positive weight is among those that are added up, and the sum only grows.
  have some : weights.filter (· > 0.0) ≠ [] :=
    List.ne_nil_of_mem (List.mem_filter.mpr ⟨member, by simpa using positive⟩)
  obtain ⟨total, holds, -, above⟩ := Binary64.holds_zero.foldl_add positive_of_mem_filter finite
  exact (Binary64.holds_zero.lt_iff_lt holds).mpr (above some)

/-- With a positive weight and a finite total some weight is chosen. -/
theorem exists_weighted? {weights : List Float} {weight : Float} (member : weight ∈ weights)
    (positive : 0.0 < weight) (finite : (positiveTotal weights).isFinite = true) (source : Source) :
    ∃ index rest, source.weighted? weights = (some index, rest) := by
  have total := positiveTotal_pos member positive finite
  -- The walk passes over no positive weight without remembering it.
  have walked : (walkWeights (source.unit.1 * positiveTotal weights) none 0 weights).isSome = true :=
    isSome_walkWeights (.inr ⟨weight, member, Binary64.not_le_of_lt positive⟩)
  obtain ⟨index, found⟩ := Option.isSome_iff_exists.mp walked
  refine ⟨index, source.unit.2, ?_⟩
  unfold weighted?
  simp [total, finite, found]

/-- The total stays finite when a positive weight is taken away. -/
theorem isFinite_positiveTotal_set {weights : List Float} {index : Nat} {weight : Float}
    (found : weights[index]? = some weight) (positive : 0.0 < weight)
    (finite : (positiveTotal weights).isFinite = true) :
    (positiveTotal (weights.set index 0.0)).isFinite = true := by
  obtain ⟨within, rfl⟩ := List.getElem?_eq_some_iff.mp found
  have none : ¬ (0.0 : Float) > 0.0 := by decide
  -- The total is that of the weights around the one that is taken away, with it and without it.
  have before : weights.filter (· > 0.0) = (weights.take index).filter (· > 0.0) ++
      weights[index] :: (weights.drop (index + 1)).filter (· > 0.0) := by
    conv_lhs => rw [← List.take_append_drop index weights, List.drop_eq_getElem_cons within]
    rw [List.filter_append, List.filter_cons_of_pos (by simpa using positive)]
  have after : (weights.set index 0.0).filter (· > 0.0) = (weights.take index).filter (· > 0.0) ++
      (weights.drop (index + 1)).filter (· > 0.0) := by
    rw [List.set_eq_take_append_cons_drop, if_pos within, List.filter_append,
      List.filter_cons_of_neg (by simpa using none)]
  have counted : ∀ weight ∈ weights.filter (· > 0.0), 0.0 < weight := positive_of_mem_filter
  unfold positiveTotal at finite ⊢
  rw [before] at finite counted
  rw [after]
  exact Binary64.isFinite_foldl_add_erase Binary64.holds_zero counted finite

/-- A positive total is that of some positive weight. -/
theorem exists_positive {weights : List Float} (total : 0.0 < positiveTotal weights) :
    ∃ weight ∈ weights, 0.0 < weight := by
  by_contra none
  push Not at none
  -- Without a positive weight the total would be that of nothing.
  have empty : weights.filter (· > 0.0) = [] :=
    List.filter_eq_nil_iff.mpr fun weight member => by simpa using none weight member
  rw [positiveTotal, empty] at total
  exact absurd total (by decide)

/-- A weighted choice is the position of a positive weight, or of one that is no number and has none behind it
that would count. With a total that is positive and finite there is a choice. -/
theorem weighted?_drawable (source : Source) (weights : List Float) :
    (∀ index rest, source.weighted? weights = (some index, rest) →
      ∃ weight, weights[index]? = some weight ∧
        (0.0 < weight ∨ weight.isNaN = true ∧ ∀ later ∈ weights.drop (index + 1), later ≤ 0.0)) ∧
    (0.0 < positiveTotal weights → (positiveTotal weights).isFinite = true →
      ∃ index rest, source.weighted? weights = (some index, rest)) := by
  constructor
  · intro index rest drawn
    obtain ⟨front, weight, rear, rfl, rfl, counts, ended⟩ := weighted?_cases drawn
    refine ⟨weight, by simp, ?_⟩
    cases number : weight.isNaN with
    | false => exact .inl (Binary64.float_lt_of_not_le number rfl counts)
    | true =>
      -- Nothing is smaller than what is no number, so the walk has not stopped there.
      refine .inr ⟨rfl, ?_⟩
      have rest := ended.resolve_left fun ⟨left, smaller⟩ => by
        rw [Binary64.isNaN_eq_false_of_lt smaller] at number
        cases number
      simpa using rest
  · intro positive finite
    obtain ⟨weight, member, above⟩ := exists_positive positive
    exact exists_weighted? member above finite source

/-- What is no number. -/
def notANumber : Float := 0.0 / 0.0

/-- What is no number is not chosen in front of a positive weight. -/
theorem weighted?_drawable_one :
    0.0 < positiveTotal [notANumber, 1.0] ∧ (positiveTotal [notANumber, 1.0]).isFinite = true ∧
      ∃ rest, (ofSeed 0).weighted? [notANumber, 1.0] = (some 1, rest) := by
  have positive : 0.0 < positiveTotal [notANumber, 1.0] := by decide +kernel
  have finite : (positiveTotal [notANumber, 1.0]).isFinite = true := by decide +kernel
  -- The draw comes to an index, and only the second weight can be the one that it falls on.
  obtain ⟨fell, drawn⟩ := weighted?_drawable (ofSeed 0) [notANumber, 1.0]
  obtain ⟨index, rest, chosen⟩ := drawn positive finite
  refine ⟨positive, finite, rest, ?_⟩
  obtain ⟨weight, found, above | ⟨-, later⟩⟩ := fell index rest chosen
  · match index, found with
    | 0, found =>
      obtain rfl : notANumber = weight := Option.some_inj.mp found
      exact absurd above (by decide)
    | 1, _ => exact chosen
  · match index, found with
    | 0, _ => exact absurd (later 1.0 (by simp)) (by decide)
    | 1, _ => exact chosen

/-- The choice falls on the last weight, which is no number, although another weight is positive. -/
theorem weighted?_notANumber :
    ((ofSeed 0).weighted? [notANumber, 1.0, notANumber]).1 = some 2 ∧ ¬ 0.0 < notANumber := by
  decide +kernel

end Decksmith.Random.Source
