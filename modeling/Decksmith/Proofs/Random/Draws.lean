import Decksmith.Random.Draw
import Mathlib.Algebra.Group.Nat.Defs

/-! Random choices stay within what they choose from, whatever the stream. -/

namespace Decksmith.Random.Source

/-- A scaled draw lies below the count, whether it was accepted or the retries ran out. -/
theorem scaleBelow_lt {draw : Source → Nat × Source} {bits count : Nat} (positive : 0 < count)
    (narrow : ∀ source, (draw source).1 < 2 ^ bits) (retries : Nat) :
    ∀ source, (scaleBelow draw bits count retries source).1 < count := by
  -- The high half of a product with the count is below the count.
  have high : ∀ source, ((draw source).1 * count) >>> bits < count := by
    intro source
    rw [Nat.shiftRight_eq_div_pow, Nat.div_lt_iff_lt_mul (Nat.two_pow_pos bits), Nat.mul_comm count]
    exact Nat.mul_lt_mul_of_pos_right (narrow source) positive
  induction retries with
  -- Without a retry left the last draw is taken as it is.
  | zero => exact high
  | succ retries ih =>
    intro source
    simp only [scaleBelow]
    split
    · exact high source
    · exact ih _

/-- A uniform number lies below its count. -/
theorem below_lt (source : Source) {count : Nat} (positive : 0 < count) :
    (source.below count).1 < count :=
  scaleBelow_lt positive (fun source => source.doubleWord.1.toNat_lt) rejectionLimit source

/-- A position lies within the list, and stands in for position zero where there is none. -/
theorem position_lt (source : Source) {length : Nat} (positive : 0 < length) :
    (source.position? length).1.getD 0 < length := by
  simpa [position?, Nat.ne_of_gt positive] using source.below_lt positive

/-- A number from a range is no smaller than the lower bound. -/
theorem le_between (source : Source) (low high : Nat) : low ≤ (source.between low high).1 := by
  -- What is drawn is added to the lower bound.
  unfold between
  split
  · exact Nat.le_refl low
  · exact Nat.le_add_right low _

/-- A number from a range is no larger than the upper bound, unless the range is empty. -/
theorem between_le (source : Source) {low high : Nat} (ordered : low ≤ high) :
    (source.between low high).1 ≤ high := by
  unfold between
  split
  · exact ordered
  -- The draw is below the width of the range, in which both bounds are counted.
  · have drawn : (source.below (high - low + 1)).1 < high - low + 1 :=
      source.below_lt (Nat.succ_pos _)
    dsimp only
    omega

/-- Swapping items leaves the same items. -/
theorem shuffleBelow_perm (items : Array α) (last : Nat) (source : Source) :
    (shuffleBelow items last source).1.Perm items := by
  induction last generalizing items source with
  | zero => exact .refl items
  | succ last ih =>
    refine (ih _ _).trans ?_
    rw [Array.swapIfInBounds_def]
    -- A swap outside the bounds, which no draw asks for, changes nothing.
    split
    · split
      · exact Array.swap_perm _ _
      · exact .refl items
    · exact .refl items

/-- A shuffle only reorders. -/
theorem shuffle_perm (source : Source) (items : List α) :
    (source.shuffle items).1.Perm items := by
  simpa [shuffle] using
    Array.perm_iff_toList_perm.mp (shuffleBelow_perm items.toArray (items.length - 1) source)

/-- Swaps do not look at the items. -/
theorem shuffleBelow_map {β : Type} (f : α → β) (items : Array α) (last : Nat) (source : Source) :
    shuffleBelow (items.map f) last source =
      ((shuffleBelow items last source).1.map f, (shuffleBelow items last source).2) := by
  induction last generalizing items source with
  | zero => rfl
  | succ last ih =>
    -- Swapping two places does not look at what stands there.
    have swapped : ∀ i j, (items.map f).swapIfInBounds i j = (items.swapIfInBounds i j).map f := by
      intro i j
      refine Array.ext (by simp) fun k _ _ => ?_
      simp only [Array.getElem_swapIfInBounds, Array.getElem_map, Array.size_map]
      grind
    simp only [shuffleBelow]
    rw [swapped, ih]

/-- A shuffle does not look at the items. -/
theorem shuffle_map {β : Type} (source : Source) (f : α → β) (items : List α) :
    source.shuffle (items.map f) = ((source.shuffle items).1.map f, (source.shuffle items).2) := by
  -- The number of the items is all that the draws depend on.
  unfold shuffle
  dsimp only
  rw [← List.map_toArray, shuffleBelow_map, List.length_map, Array.toList_map]

/-- A walk along the weights ends at one that exceeds what is left there, or at the last one that is not
passed over; if there is none, it ends where it has been before. -/
theorem walkWeights_cases {weights : List Float} {remaining : Float} {last : Option Nat}
    {index chosen : Nat} (walked : walkWeights remaining last index weights = some chosen) :
    (last = some chosen ∧ ∀ weight ∈ weights, weight ≤ 0.0) ∨
      ∃ front weight rear, weights = front ++ weight :: rear ∧ chosen = index + front.length ∧
        ¬ weight ≤ 0.0 ∧ ((∃ left : Float, left < weight) ∨ ∀ later ∈ rear, later ≤ 0.0) := by
  -- The induction is on the weights that are left, for any state of the walk.
  induction weights generalizing remaining last index with
  | nil => exact .inl ⟨walked, by simp⟩
  | cons weight others ih =>
    rw [walkWeights] at walked
    split at walked
    · rename_i passed
      rcases ih walked with ⟨before, none⟩ | ⟨front, found, rear, rfl, rfl, counts, ended⟩
      · exact .inl ⟨before, List.forall_mem_cons.mpr ⟨passed, none⟩⟩
      · exact .inr ⟨weight :: front, found, rear, rfl, by simp; omega, counts, ended⟩
    · rename_i counts
      split at walked
      · rename_i exceeded
        cases walked
        exact .inr ⟨[], weight, others, rfl, rfl, counts, .inl ⟨remaining, exceeded⟩⟩
      · -- The walk goes on, and comes back to this weight if there is no other one behind it.
        rcases ih walked with ⟨here, none⟩ | ⟨front, found, rear, rfl, rfl, further, ended⟩
        · cases here
          exact .inr ⟨[], weight, others, rfl, rfl, counts, .inr none⟩
        · exact .inr ⟨weight :: front, found, rear, rfl, by simp; omega, further, ended⟩

/-- A weighted choice falls on a weight that is not passed over. If nothing is smaller than this weight, then it
is the last one of these. -/
theorem weighted?_cases {weights : List Float} {source rest : Source} {chosen : Nat}
    (drawn : source.weighted? weights = (some chosen, rest)) :
    ∃ front weight rear, weights = front ++ weight :: rear ∧ chosen = front.length ∧
      ¬ weight ≤ 0.0 ∧ ((∃ left : Float, left < weight) ∨ ∀ later ∈ rear, later ≤ 0.0) := by
  unfold weighted? at drawn
  dsimp only at drawn
  split at drawn
  -- The walk starts with nothing to fall back on, so it comes to a weight of the list.
  · rcases walkWeights_cases (congrArg Prod.fst drawn) with ⟨none, -⟩ | found
    · cases none
    · simpa using found
  · cases drawn

/-- The choice is the position of such a weight. -/
theorem weighted?_eq_some {weights : List Float} {source rest : Source} {chosen : Nat}
    (drawn : source.weighted? weights = (some chosen, rest)) :
    ∃ weight, weights[chosen]? = some weight ∧ ¬ weight ≤ 0.0 := by
  obtain ⟨front, weight, rear, rfl, rfl, counts, -⟩ := weighted?_cases drawn
  exact ⟨weight, by simp, counts⟩

/-- A weight that is alone is chosen, whatever is drawn. -/
theorem weighted?_singleton (source : Source) {weight : Float}
    (counted : (positiveTotal [weight] > 0.0 && (positiveTotal [weight]).isFinite) = true)
    (positive : ¬ weight ≤ 0.0) : (source.weighted? [weight]).1 = some 0 := by
  unfold weighted?
  simp only [counted, if_true]
  rw [walkWeights, if_neg positive]
  -- What rounding leaves behind the only weight belongs to it as well.
  split <;> rfl

end Decksmith.Random.Source
