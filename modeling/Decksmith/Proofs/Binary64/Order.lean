/-! The order of doubles: of two finite numbers, either one is smaller or the other one is no larger. -/

namespace Decksmith.Binary64

open Float.Model Float.Model.UnpackedFloat

/-- Doubles are compared by the numbers that they hold. -/
theorem lt_iff (x y : Float) :
    x < y ↔ UnpackedFloat.lt x.toModel.unpack y.toModel.unpack = true := by
  -- Both sides unfold to the same comparison, which the runtime order states through a decision.
  show Float.lt x y = true ↔ _
  unfold Float.lt
  rw [decide_eq_true_eq]
  rfl

/-- So they are for the weak order. -/
theorem le_iff (x y : Float) :
    x ≤ y ↔ UnpackedFloat.le x.toModel.unpack y.toModel.unpack = true := by
  show Float.le x y = true ↔ _
  unfold Float.le
  rw [decide_eq_true_eq]
  rfl

/-- A smaller double is no larger. -/
theorem float_le_of_lt {x y : Float} (smaller : x < y) : x ≤ y := by
  -- The comparison says "less", which the weak order accepts.
  rw [lt_iff, UnpackedFloat.lt, beq_iff_eq] at smaller
  rw [le_iff, UnpackedFloat.le, smaller]
  rfl

/-- A double that is no larger than another one is smaller, unless they are equal. -/
theorem float_lt_of_le {x y : Float} (ordered : x ≤ y) (apart : (x == y) = false) : x < y := by
  -- The weak order leaves "less" and "equal", and the numbers are not equal.
  have apart : (UnpackedFloat.compare x.toModel.unpack y.toModel.unpack == some .eq) = false := apart
  rw [le_iff, UnpackedFloat.le] at ordered
  rw [lt_iff, UnpackedFloat.lt]
  -- Of the three ways to compare two numbers only one is left.
  cases compared : UnpackedFloat.compare x.toModel.unpack y.toModel.unpack with
  | none =>
    rw [compared] at ordered
    cases ordered
  | some order =>
    rw [compared] at ordered apart
    cases order with
    | lt => rfl
    | eq => cases apart
    | gt => cases ordered

/-- What is no number is not ordered. -/
theorem isNaN_eq_false_of_le {x y : Float} (ordered : x ≤ y) : x.isNaN = false := by
  show x.toModel.unpack.isNaN = false
  rw [le_iff, UnpackedFloat.le] at ordered
  -- Nothing compares with what is no number, so the weak order would be false.
  cases held : x.toModel.unpack with
  | notANumber =>
    rw [held] at ordered
    cases ordered
  | _ => rfl

/-- Comparing the other way round gives the opposite answer. -/
theorem compare_swap (x y : UnpackedFloat) :
    UnpackedFloat.compare y x = (UnpackedFloat.compare x y).map Ordering.swap := by
  cases x with
  | notANumber => cases y <;> rfl
  | infinity sign =>
    -- An infinity is compared by its sign.
    cases y with
    | notANumber => cases sign <;> rfl
    | infinity other => cases sign <;> cases other <;> rfl
    | zero other => cases sign <;> rfl
    | finite other _ _ _ => cases sign <;> rfl
  | zero sign =>
    cases y with
    | notANumber => rfl
    | infinity other => cases other <;> rfl
    | zero other => rfl
    | finite other _ _ _ => cases other <;> rfl
  | finite sign mantissa exponent positive =>
    cases y with
    | notANumber => cases sign <;> rfl
    | infinity other => cases sign <;> cases other <;> rfl
    | zero other => cases sign <;> rfl
    | finite other wider further _ =>
      -- Numbers of one sign are compared by their exponents, and then by their mantissas.
      have swapped : (compare further exponent).then (compare wider mantissa) =
          ((compare exponent further).then (compare mantissa wider)).swap := by
        rw [Ordering.swap_then, Int.compare_swap, Nat.compare_swap]
      cases sign with
      | negative =>
        cases other with
        | negative => exact congrArg (fun order => some order.swap) swapped
        | positive => rfl
      | positive =>
        cases other with
        | negative => rfl
        | positive => exact congrArg some swapped

/-- What is finite is a number. -/
theorem isNaN_eq_false_of_isFinite {x : UnpackedFloat} (finite : x.isFinite = true) : x.isNaN = false := by
  cases x with
  | notANumber => cases finite
  | _ => rfl

/-- Numbers can be compared. -/
theorem isSome_compare {x y : UnpackedFloat} (left : x.isNaN = false) (right : y.isNaN = false) :
    (UnpackedFloat.compare x y).isSome = true := by
  -- Only a comparison with what is no number has no answer, and both hypotheses exclude it.
  cases x with
  | notANumber => cases left
  | infinity sign =>
    cases y with
    | notANumber => cases right
    | infinity other => cases sign <;> cases other <;> rfl
    | zero _ => cases sign <;> rfl
    | finite _ _ _ _ => cases sign <;> rfl
  | zero sign =>
    cases y with
    | notANumber => cases right
    | infinity other => cases other <;> rfl
    | zero _ => rfl
    | finite other _ _ _ => cases other <;> rfl
  | finite sign _ _ _ =>
    cases y with
    | notANumber => cases right
    | infinity other => cases sign <;> cases other <;> rfl
    | zero _ => cases sign <;> rfl
    | finite other _ _ _ => cases sign <;> cases other <;> rfl

/-- No number is both larger than another one and at most as large. -/
theorem not_le_of_lt {x y : Float} (larger : y < x) : ¬ x ≤ y := by
  -- The strict order fixes the comparison, and its swap says "greater".
  rw [lt_iff, UnpackedFloat.lt, beq_iff_eq] at larger
  rw [le_iff, UnpackedFloat.le, compare_swap, larger]
  decide

/-- Of two finite numbers, the first is larger or at most as large. -/
theorem le_of_not_lt {x y : Float} (left : x.isFinite = true) (right : y.isFinite = true)
    (larger : ¬ y < x) : x ≤ y := by
  rw [lt_iff, UnpackedFloat.lt, beq_iff_eq] at larger
  rw [le_iff, UnpackedFloat.le, compare_swap]
  -- Both are numbers, so they compare in one of three ways.
  obtain ⟨order, found⟩ := Option.isSome_iff_exists.mp
    (isSome_compare (isNaN_eq_false_of_isFinite right) (isNaN_eq_false_of_isFinite left))
  rw [found] at larger ⊢
  cases order with
  | lt => exact absurd rfl larger
  | eq => rfl
  | gt => rfl

/-- Of two numbers, the first is at most as large or larger, also if they are infinite. -/
theorem float_lt_of_not_le {x y : Float} (left : x.isNaN = false) (right : y.isNaN = false)
    (above : ¬ x ≤ y) : y < x := by
  rw [le_iff, UnpackedFloat.le] at above
  rw [lt_iff, UnpackedFloat.lt, compare_swap]
  -- Being numbers is enough to compare them, infinities included.
  obtain ⟨order, found⟩ := Option.isSome_iff_exists.mp (isSome_compare left right)
  rw [found] at above ⊢
  cases order with
  | lt => exact absurd rfl above
  | eq => exact absurd rfl above
  | gt => rfl

/-- What a double is smaller than is a number. -/
theorem isNaN_eq_false_of_lt {x y : Float} (smaller : x < y) : y.isNaN = false := by
  show y.toModel.unpack.isNaN = false
  rw [lt_iff, UnpackedFloat.lt] at smaller
  -- The swapped comparison has no answer either.
  cases held : y.toModel.unpack with
  | notANumber =>
    rw [held, compare_swap] at smaller
    cases smaller
  | _ => rfl

/-- A finite number is no larger than itself. -/
theorem float_le_refl {x : Float} (finite : x.isFinite = true) : x ≤ x :=
  -- Otherwise it would be smaller than itself, and the strict order excludes the weak one.
  le_of_not_lt finite finite fun smaller => not_le_of_lt smaller (float_le_of_lt smaller)

/-- Equality of doubles goes both ways. -/
theorem float_beq_comm (x y : Float) : (x == y) = (y == x) := by
  show (UnpackedFloat.compare x.toModel.unpack y.toModel.unpack == some .eq) =
    (UnpackedFloat.compare y.toModel.unpack x.toModel.unpack == some .eq)
  -- Equality asks whether the comparison says "equal", and swapping keeps that answer.
  rw [compare_swap x.toModel.unpack y.toModel.unpack]
  cases UnpackedFloat.compare x.toModel.unpack y.toModel.unpack with
  | none => rfl
  | some order => cases order <;> rfl

end Decksmith.Binary64
