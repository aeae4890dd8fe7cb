import Decksmith.Decimal.Binary
import Decksmith.Proofs.Binary64.Canonical
import Decksmith.Proofs.Binary64.Order

/-! The order of doubles as an order of whole numbers: a double stands on a level, which is the number of
steps that lead to it from zero. -/

namespace Decksmith.Binary64

open Float.Model Float.Model.UnpackedFloat

/-- How many steps lead from zero to the number that a mantissa and an exponent are stored for. -/
def steps (mantissa : Nat) (exponent : Int) : Int :=
  (exponent + 1074) * 2 ^ 52 + mantissa

/-- The level of an unpacked number. What is no number is on none, and level zero stands in for it. -/
def level : UnpackedFloat → Int
  | .notANumber => 0
  | .infinity sign => sign.apply (2047 * 2 ^ 52)
  | .zero _ => 0
  | .finite sign mantissa exponent _ => sign.apply (steps mantissa exponent)

/-- An unpacked number that a double can store. -/
inductive Storable : UnpackedFloat → Prop where
  | infinity (sign : Sign) : Storable (.infinity sign)
  | zero (sign : Sign) : Storable (.zero sign)
  | finite {sign : Sign} {mantissa : Nat} {exponent : Int} {positive : 0 < mantissa}
      (canonical : Canonical mantissa exponent) (bounded : exponent ≤ 971) :
      Storable (.finite sign mantissa exponent positive)

/-- What is unpacked from a double can be stored, if it is a number. -/
theorem storable_unpack {x : Float.Model} (number : x.unpack.isNaN = false) : Storable x.unpack := by
  -- A finite number that is unpacked is in canonical form, and the other kinds can be stored anyway.
  cases found : x.unpack with
  | notANumber =>
    rw [found] at number
    cases number
  | infinity sign => exact .infinity sign
  | zero sign => exact .zero sign
  | finite sign mantissa exponent positive =>
    obtain ⟨canonical, bounded⟩ := unpack_canonical found
    exact .finite canonical bounded

/-- Some steps lead to a number that is not zero. -/
theorem Canonical.steps_pos {mantissa : Nat} {exponent : Int} (canonical : Canonical mantissa exponent)
    (positive : 0 < mantissa) : 0 < steps mantissa exponent := by
  -- Already the least exponent leaves the steps of the mantissa, of which there is one at least.
  have lowest := canonical.lowest
  unfold steps
  omega

/-- Finite numbers stand between zero and infinity. -/
theorem Canonical.steps_bounds {mantissa : Nat} {exponent : Int} (canonical : Canonical mantissa exponent)
    (positive : 0 < mantissa) (bounded : exponent ≤ 971) :
    0 < steps mantissa exponent ∧ steps mantissa exponent < 2047 * 2 ^ 52 := by
  refine ⟨canonical.steps_pos positive, ?_⟩
  -- The highest exponent and the widest mantissa stay below the steps that infinity stands for.
  have narrow := canonical.narrow
  unfold steps
  omega

/-- The exponent decides about the number of steps, and then the mantissa does. -/
theorem Canonical.compare_steps {mantissa wider : Nat} {exponent further : Int}
    (left : Canonical mantissa exponent) (right : Canonical wider further) :
    (compare exponent further).then (compare mantissa wider) =
      compare (steps mantissa exponent) (steps wider further) := by
  obtain ⟨narrow, lowest, used⟩ := left
  obtain ⟨narrow', lowest', used'⟩ := right
  rcases lt_trichotomy exponent further with less | rfl | more
  · -- A larger exponent comes with a leading bit, which is worth the whole range of mantissas below.
    have : steps mantissa exponent < steps wider further := by
      unfold steps
      omega
    rw [compare_lt_iff_lt.mpr less, compare_lt_iff_lt.mpr this]
    rfl
  -- With the same exponent the steps differ by as much as the mantissas do.
  · rw [compare_eq_iff_eq.mpr rfl, Ordering.eq_then]
    have same : steps wider exponent - steps mantissa exponent = (wider : Int) - mantissa := by
      unfold steps
      omega
    rcases lt_trichotomy mantissa wider with less | rfl | more
    · rw [compare_lt_iff_lt.mpr less, compare_lt_iff_lt.mpr (by omega)]
    · rw [compare_eq_iff_eq.mpr rfl, compare_eq_iff_eq.mpr rfl]
    · rw [compare_gt_iff_gt.mpr more, compare_gt_iff_gt.mpr (by omega)]
  -- The other way round the number on the left has the leading bit.
  · have : steps wider further < steps mantissa exponent := by
      unfold steps
      omega
    rw [compare_gt_iff_gt.mpr more, compare_gt_iff_gt.mpr this]
    rfl

/-- Whatever is compared by levels is so the other way round. -/
theorem compare_level_swap {u v : UnpackedFloat}
    (compared : UnpackedFloat.compare u v = some (compare (level u) (level v))) :
    UnpackedFloat.compare v u = some (compare (level v) (level u)) := by
  -- Both comparisons turn round together.
  rw [compare_swap u v, compared, Option.map_some, Int.compare_swap]

/-- An infinity stands above or below all other numbers. -/
theorem compare_infinity (sign : Sign) {v : UnpackedFloat} (storable : Storable v) :
    UnpackedFloat.compare (.infinity sign) v = some (compare (level (.infinity sign)) (level v)) := by
  cases storable with
  | infinity other => cases sign <;> cases other <;> rfl
  | zero other => cases sign <;> rfl
  | @finite other wider further some canonical bounded =>
    -- Finite numbers keep a distance from infinity on both sides.
    have := canonical.steps_bounds some bounded
    cases sign with
    | negative =>
      have below : level (.infinity .negative) < level (.finite other wider further some) := by
        cases other <;> simp only [level, Sign.apply] <;> omega
      rw [compare_lt_iff_lt.mpr below]
      rfl
    | positive =>
      have above : level (.finite other wider further some) < level (.infinity .positive) := by
        cases other <;> simp only [level, Sign.apply] <;> omega
      rw [compare_gt_iff_gt.mpr above]
      rfl

/-- Zero stands between the negative numbers and the positive ones. -/
theorem compare_zero (sign : Sign) {v : UnpackedFloat} (storable : Storable v) :
    UnpackedFloat.compare (.zero sign) v = some (compare (level (.zero sign)) (level v)) := by
  cases storable with
  | infinity other => exact compare_level_swap (compare_infinity other (.zero sign))
  | zero other => rfl
  | @finite other wider further some canonical bounded =>
    -- At least one step leads to a finite number, to whichever side.
    have := canonical.steps_bounds some bounded
    cases other with
    | negative =>
      have above : level (.finite .negative wider further some) < level (.zero sign) := by
        simp only [level, Sign.apply]
        omega
      rw [compare_gt_iff_gt.mpr above]
      rfl
    | positive =>
      have below : level (.zero sign) < level (.finite .positive wider further some) := by
        simp only [level, Sign.apply]
        omega
      rw [compare_lt_iff_lt.mpr below]
      rfl

/-- Of two finite numbers the signs decide, and then the distances from zero do. -/
theorem compare_finite {sign other : Sign} {mantissa wider : Nat} {exponent further : Int}
    {positive : 0 < mantissa} {some : 0 < wider} (left : Canonical mantissa exponent)
    (right : Canonical wider further) :
    UnpackedFloat.compare (.finite sign mantissa exponent positive) (.finite other wider further some) =
      Option.some (compare (level (.finite sign mantissa exponent positive))
        (level (.finite other wider further some))) := by
  -- Numbers of different signs are told apart by zero, which stands between them.
  have above := left.steps_pos positive
  have above' := right.steps_pos some
  cases sign with
  | negative =>
    cases other with
    | negative =>
      -- Further away from zero means lower.
      have opposite : compare (-steps mantissa exponent) (-steps wider further) =
          (compare (steps mantissa exponent) (steps wider further)).swap := by
        rw [Int.compare_swap]
        rcases lt_trichotomy (steps wider further) (steps mantissa exponent) with less | same | more
        · rw [compare_lt_iff_lt.mpr less, compare_lt_iff_lt.mpr (by omega)]
        · rw [compare_eq_iff_eq.mpr same, compare_eq_iff_eq.mpr (by omega)]
        · rw [compare_gt_iff_gt.mpr more, compare_gt_iff_gt.mpr (by omega)]
      show Option.some ((compare exponent further).then (compare mantissa wider)).swap = _
      rw [left.compare_steps right, ← opposite]
      rfl
    | positive =>
      have below : level (.finite .negative mantissa exponent positive) <
          level (.finite .positive wider further some) := by
        simp only [level, Sign.apply]
        omega
      rw [compare_lt_iff_lt.mpr below]
      rfl
  | positive =>
    cases other with
    | negative =>
      have lower : level (.finite .negative wider further some) <
          level (.finite .positive mantissa exponent positive) := by
        simp only [level, Sign.apply]
        omega
      rw [compare_gt_iff_gt.mpr lower]
      rfl
    | positive =>
      -- Further away from zero means higher.
      show Option.some ((compare exponent further).then (compare mantissa wider)) = _
      rw [left.compare_steps right]
      rfl

/-- Numbers are compared by their levels. -/
theorem compare_eq_compare_level {u v : UnpackedFloat} (left : Storable u) (right : Storable v) :
    UnpackedFloat.compare u v = some (compare (level u) (level v)) := by
  -- Where the right side is of an earlier kind, the comparison is turned round.
  cases left with
  | infinity sign => exact compare_infinity sign right
  | zero sign => exact compare_zero sign right
  | finite canonical bounded =>
    cases right with
    | infinity other => exact compare_level_swap (compare_infinity other (.finite canonical bounded))
    | zero other => exact compare_level_swap (compare_zero other (.finite canonical bounded))
    | finite narrow within => exact compare_finite canonical narrow

/-- The three fields of a double make up its bits. -/
theorem toNat_bits (bits : BitVec 64) :
    bits.toNat = (@unpackSign Format.binary64 bits).toNat * 2 ^ 63 +
      (@unpackExponent Format.binary64 bits).toNat * 2 ^ 52 +
      (@unpackMantissa Format.binary64 bits).toNat := by
  -- Each field is cut out of the bits by a division and a remainder.
  have narrow := bits.isLt
  have sign : (@unpackSign Format.binary64 bits).toNat = bits.toNat / 2 ^ 63 % 2 := by
    rw [← Nat.shiftRight_eq_div_pow]
    exact BitVec.extractLsb_toNat 63 63 bits
  have exponent : (@unpackExponent Format.binary64 bits).toNat = bits.toNat / 2 ^ 52 % 2 ^ 11 := by
    rw [← Nat.shiftRight_eq_div_pow]
    exact BitVec.extractLsb_toNat 62 52 bits
  have mantissa : (@unpackMantissa Format.binary64 bits).toNat = bits.toNat % 2 ^ 52 := by
    exact BitVec.extractLsb_toNat 51 0 bits
  rw [sign, exponent, mantissa]
  omega

/-- The exponent of a double has eleven bits, and its mantissa has 52. -/
theorem fields_lt (bits : BitVec 64) :
    (@unpackExponent Format.binary64 bits).toNat < 2 ^ 11 ∧
      (@unpackMantissa Format.binary64 bits).toNat < 2 ^ 52 :=
  ⟨(@unpackExponent Format.binary64 bits).isLt, (@unpackMantissa Format.binary64 bits).isLt⟩

/-- A number stands on the level that its bits count without the sign. -/
theorem level_unpack (bits : BitVec 64)
    (number : (UnpackedFloat.unpack Format.binary64 bits).isNaN = false) :
    level (UnpackedFloat.unpack Format.binary64 bits) =
      (Sign.ofBitVec (@unpackSign Format.binary64 bits)).apply ((bits.toNat % 2 ^ 63 : Nat) : Int) := by
  have bias : (Format.binary64.exponentBias : Int) = 1023 := rfl
  have whole := toNat_bits bits
  obtain ⟨few, short⟩ := fields_lt bits
  unfold UnpackedFloat.unpack at number ⊢
  dsimp only at number ⊢
  -- The exponent decides about the kind of number, at both of its ends together with the mantissa.
  split
  · rename_i special
    -- All exponent bits set are the top level, unless there is no number at all.
    have top : (@unpackExponent Format.binary64 bits).toNat = 2047 := by
      rw [special]
      rfl
    split
    · -- Infinity stands right above the finite numbers.
      rename_i none
      have none : (@unpackMantissa Format.binary64 bits).toNat = 0 := by
        rw [none]
        rfl
      rw [level]
      congr 1
      omega
    -- A mantissa makes it no number, which has been excluded.
    · rename_i some
      rw [if_pos special, if_neg some] at number
      cases number
  · split
    -- No exponent bit set is the bottom: zero, and what is below the leading bits.
    · rename_i least
      have least : (@unpackExponent Format.binary64 bits).toNat = 0 := by
        rw [least]
        rfl
      split
      · rename_i none
        have none : (@unpackMantissa Format.binary64 bits).toNat = 0 := by
          rw [none]
          rfl
        -- Without exponent and mantissa only the sign is left.
        have zero : bits.toNat % 2 ^ 63 = 0 := by omega
        rw [zero]
        cases Sign.ofBitVec (@unpackSign Format.binary64 bits) <;> rfl
      · -- The least exponent counts the mantissa alone.
        rw [level]
        congr 1
        unfold steps
        omega
    · -- Any other exponent is one less in front of a leading bit.
      have leading := leadingBit_toNat (@unpackMantissa Format.binary64 bits)
      rw [level]
      congr 1
      unfold steps
      omega

/-- The place of a number in the total order is its level, or one below it for a negative sign. -/
theorem orderKey_cases {x : Float} (number : x.isNaN = false) :
    (0 ≤ level x.toModel.unpack ∧ Decimal.orderKey x = level x.toModel.unpack) ∨
      (level x.toModel.unpack ≤ 0 ∧ Decimal.orderKey x = level x.toModel.unpack - 1) := by
  have counted : level x.toModel.unpack = _ := level_unpack x.toModel.toBits.toBitVec number
  have whole := toNat_bits x.toModel.toBits.toBitVec
  -- The total order counts the bits upwards, and for a negative sign downwards from below zero.
  have key : Decimal.orderKey x = if x.toModel.toBits.toBitVec.toNat < 2 ^ 63 then
      (x.toModel.toBits.toBitVec.toNat : Int)
      else -((x.toModel.toBits.toBitVec.toNat - 2 ^ 63 : Nat) : Int) - 1 := rfl
  have narrow : x.toModel.toBits.toBitVec.toNat < 2 ^ 64 := x.toModel.toBits.toBitVec.isLt
  obtain ⟨few, short⟩ := fields_lt x.toModel.toBits.toBitVec
  rw [key, counted, Sign.ofBitVec]
  split
  · -- The highest bit is the sign.
    rename_i positive
    rw [positive] at whole
    have below : x.toModel.toBits.toBitVec.toNat < 2 ^ 63 := by
      simp only [BitVec.toNat_ofNat] at whole
      omega
    refine .inl ⟨Int.natCast_nonneg _, ?_⟩
    rw [if_pos below, Sign.apply, Nat.mod_eq_of_lt below]
  -- A sign bit is set, so the bits below it are counted downwards.
  · rename_i negative
    have one : (@unpackSign Format.binary64 x.toModel.toBits.toBitVec).toNat ≠ 0 :=
      fun zero => negative (BitVec.eq_of_toNat_eq zero)
    have above : ¬ x.toModel.toBits.toBitVec.toNat < 2 ^ 63 := by omega
    refine .inr ⟨by rw [Sign.apply]; omega, ?_⟩
    rw [if_neg above, Sign.apply]
    omega

/-- Numbers are in the order of their levels. -/
theorem le_iff_level {x y : Float} (left : x.isNaN = false) (right : y.isNaN = false) :
    x ≤ y ↔ level x.toModel.unpack ≤ level y.toModel.unpack := by
  -- The comparison is not empty, because neither side is a NaN.
  rw [le_iff, UnpackedFloat.le,
    compare_eq_compare_level (storable_unpack left) (storable_unpack right), Option.any_some,
    Ordering.isLE_iff_ne_gt]
  exact compare_le_iff_le

/-- A number that comes no later than another one in the total order is no larger. -/
theorem le_of_totalLe {x y : Float} (left : x.isNaN = false) (right : y.isNaN = false)
    (ordered : Decimal.totalLe x y = true) : x ≤ y := by
  have ordered : Decimal.orderKey x ≤ Decimal.orderKey y := of_decide_eq_true ordered
  rw [le_iff_level left right]
  -- A negative sign moves both a number and its level below zero.
  rcases orderKey_cases left with ⟨above, here⟩ | ⟨below, here⟩ <;>
    rcases orderKey_cases right with ⟨above', there⟩ | ⟨below', there⟩ <;> omega

/-- What is compared with another double is a number, and so is the other one. -/
theorem isNaN_of_le {x y : Float} (ordered : x ≤ y) : x.isNaN = false ∧ y.isNaN = false := by
  -- A NaN on either side makes the comparison empty, whatever stands on the other one.
  rw [le_iff, UnpackedFloat.le] at ordered
  show x.toModel.unpack.isNaN = false ∧ y.toModel.unpack.isNaN = false
  constructor
  · cases lower : x.toModel.unpack with
    | notANumber =>
      rw [lower] at ordered
      cases ordered
    | _ => rfl
  · cases upper : y.toModel.unpack with
    | notANumber =>
      -- Whatever stands on the left, it is not compared with a NaN.
      rw [upper] at ordered
      generalize x.toModel.unpack = lower at ordered
      cases lower <;> cases ordered
    | _ => rfl

/-- The order of doubles is transitive. -/
theorem float_le_trans {x y z : Float} (first : x ≤ y) (second : y ≤ z) : x ≤ z := by
  -- Levels are integers, and their order is transitive.
  obtain ⟨lowest, middle⟩ := isNaN_of_le first
  obtain ⟨-, highest⟩ := isNaN_of_le second
  rw [le_iff_level lowest middle] at first
  rw [le_iff_level middle highest] at second
  rw [le_iff_level lowest highest]
  exact Int.le_trans first second

/-- Doubles at the same place of the total order are the same. -/
theorem eq_of_orderKey_eq {x y : Float} (same : Decimal.orderKey x = Decimal.orderKey y) : x = y := by
  -- The total order counts the bits, so its places are those of the bits.
  have bits : x.toBits = y.toBits := by
    rw [← UInt64.toNat_inj]
    have := x.toBits.toNat_lt
    have := y.toBits.toNat_lt
    simp only [Decimal.orderKey] at same
    split at same <;> split at same <;> omega
  rcases x with ⟨⟨_, _⟩⟩
  rcases y with ⟨⟨_, _⟩⟩
  cases bits
  rfl

/-- A number on the level of zero is equal to it. -/
theorem beq_zero_of_level {x : Float} (number : x.isNaN = false) (ground : level x.toModel.unpack = 0) :
    (x == 0.0) = true := by
  -- Zero itself stands on the level of zero, so that both compare as equal.
  have compared := compare_eq_compare_level (storable_unpack number) (.zero .positive)
  rw [ground] at compared
  show (UnpackedFloat.compare x.toModel.unpack (.zero .positive) == some .eq) = true
  rw [compared]
  rfl

/-- Numbers that are no larger than each other are the same, or both of them are zeros. -/
theorem eq_or_zeros_of_le {x y : Float} (ordered : x ≤ y) (reversed : y ≤ x) :
    x = y ∨ (x == 0.0) = true ∧ (y == 0.0) = true := by
  obtain ⟨left, right⟩ := isNaN_of_le ordered
  rw [le_iff_level left right] at ordered
  rw [le_iff_level right left] at reversed
  -- On the level of zero there are two numbers, on every other level there is one.
  by_cases ground : level x.toModel.unpack = 0
  · exact .inr ⟨beq_zero_of_level left ground, beq_zero_of_level right (by omega)⟩
  · -- Away from zero the level of a number settles its sign, and so its place in the total order.
    refine .inl (eq_of_orderKey_eq ?_)
    rcases orderKey_cases left with ⟨above, here⟩ | ⟨below, here⟩ <;>
      rcases orderKey_cases right with ⟨above', there⟩ | ⟨below', there⟩ <;> omega

end Decksmith.Binary64
