import Decksmith.Proofs.Binary64.Arithmetic
import Mathlib.Data.Rat.Floor

/-! What doubles hold: their order, what packing leaves of a number, whole numbers that are converted to
doubles, and the whole parts of doubles. -/

namespace Decksmith.Binary64

open Float.Model Float.Model.UnpackedFloat

/-- The number that an unpacked one stands for. Infinities and what is no number stand for nothing. -/
def value : UnpackedFloat → ℚ
  | .finite sign mantissa exponent _ => sign.apply mantissa * 2 ^ exponent
  | _ => 0

/-- The rational number that a double stands for. -/
def toRat (x : Float) : ℚ :=
  value x.toModel.unpack

variable {a b : ℚ} {u v : UnpackedFloat} {x y : Float}

/-- A number that is held is what a double stands for. -/
theorem Holds.value_eq (holds : Holds a u) : value u = a := by
  -- Both ways to hold a number name the number itself.
  cases holds with
  | zero sign none => exact none.symm
  | finite canonical same => rw [same, value, Sign.apply, Int.cast_natCast]

/-- What holds a number is finite. -/
theorem Holds.isFinite (holds : Holds a u) : u.isFinite = true := by
  cases holds <;> rfl

/-- What holds a number is no infinity. -/
theorem Holds.isInf (holds : Holds a u) : u.isInf = false := by
  cases holds <;> rfl

/-- Of two canonical numbers, the one with the smaller exponent is smaller. -/
theorem Canonical.lt_of_exponent_lt {mantissa wider : Nat} {exponent further : Int}
    (left : Canonical mantissa exponent) (right : Canonical wider further)
    (less : exponent < further) :
    (mantissa : ℚ) * 2 ^ exponent < wider * 2 ^ further := by
  have narrow : (mantissa : ℚ) < 2 ^ 53 := by exact_mod_cast left.narrow
  -- The larger exponent is not the least one, so the mantissa has its leading bit.
  have leading : 2 ^ 52 ≤ wider := right.used.resolve_right (by have := left.lowest; omega)
  calc (mantissa : ℚ) * 2 ^ exponent < 2 ^ 53 * 2 ^ exponent := by gcongr
    _ = 2 ^ 52 * 2 ^ (exponent + 1) := by
      rw [zpow_add_one₀ two_ne_zero]
      ring
    _ ≤ (wider : ℚ) * 2 ^ further := by
      gcongr
      · exact_mod_cast leading
      · norm_num
      · omega

/-- Unpacked numbers are compared as the rational numbers that they hold. -/
theorem Holds.compare_eq (left : Holds a u) (right : Holds b v) :
    UnpackedFloat.compare u v = some (compare a b) := by
  cases left with
  | zero sign none =>
    -- Zeros of both signs are equal, and all positive numbers are above them.
    subst none
    cases right with
    | zero other none =>
      rw [none, compare_eq_iff_eq.mpr rfl]
      rfl
    | @finite wider further positive narrow equal =>
      have : 0 < b := by
        rw [equal]
        positivity
      rw [compare_lt_iff_lt.mpr this]
      rfl
  | @finite mantissa exponent positive canonical same =>
    cases right with
    | zero other none =>
      have : b < a := by
        rw [none, same]
        positivity
      rw [compare_gt_iff_gt.mpr this]
      rfl
    | @finite wider further some narrow equal =>
      show Option.some ((compare exponent further).then (compare mantissa wider)) = _
      -- The exponents decide first, and then the mantissas.
      rcases lt_trichotomy exponent further with less | rfl | more
      -- A smaller exponent means a smaller number, since the larger one belongs to a full mantissa.
      · have := canonical.lt_of_exponent_lt narrow less
        rw [← same, ← equal] at this
        rw [Int.compare_eq_lt.mpr less, compare_lt_iff_lt.mpr this]
        rfl
      -- With equal exponents the power of two is a common factor.
      · have power : (0 : ℚ) < 2 ^ exponent := by positivity
        rw [compare_eq_iff_eq.mpr rfl, Ordering.eq_then, same, equal]
        congr 1
        rcases lt_trichotomy mantissa wider with less | rfl | more
        · have : (mantissa : ℚ) < wider := by exact_mod_cast less
          rw [compare_lt_iff_lt.mpr less, compare_lt_iff_lt.mpr (by gcongr)]
        · rw [compare_eq_iff_eq.mpr rfl, compare_eq_iff_eq.mpr rfl]
        · have : (wider : ℚ) < mantissa := by exact_mod_cast more
          rw [compare_gt_iff_gt.mpr more, compare_gt_iff_gt.mpr (by gcongr)]
      -- The same argument the other way round.
      · have := narrow.lt_of_exponent_lt canonical more
        rw [← same, ← equal] at this
        rw [Int.compare_eq_gt.mpr more, compare_gt_iff_gt.mpr this]
        rfl

/-- Doubles are in the order of the numbers that they hold. -/
theorem Holds.lt_iff_lt (left : Holds a x.toModel.unpack) (right : Holds b y.toModel.unpack) :
    x < y ↔ a < b := by
  -- The strict order asks whether the comparison says "less".
  rw [lt_iff, UnpackedFloat.lt, left.compare_eq right, beq_iff_eq, Option.some_inj, compare_lt_iff_lt]

/-- So they are in the weak order. -/
theorem Holds.le_iff_le (left : Holds a x.toModel.unpack) (right : Holds b y.toModel.unpack) :
    x ≤ y ↔ a ≤ b := by
  -- The weak order asks whether the comparison does not say "greater".
  rw [le_iff, UnpackedFloat.le, left.compare_eq right, Option.any_some, Ordering.isLE_iff_ne_gt]
  exact compare_le_iff_le

theorem holds_zero : Holds 0 (0.0 : Float).toModel.unpack := by
  have zero : (0.0 : Float).toModel.unpack = .zero .positive := rfl
  rw [zero]
  exact .zero .positive rfl

theorem holds_one : Holds 1 (1.0 : Float).toModel.unpack := by
  -- One is stored with its leading bit alone, 52 places in front of the point.
  have one : (1.0 : Float).toModel.unpack = .finite .positive (2 ^ 52) (-52) (by decide) := rfl
  rw [one]
  exact .finite ⟨by decide, by decide, .inl (by decide)⟩ (by norm_num)

/-- What is left of a number that is packed: the number itself, or infinity if it is too large. -/
inductive Packed (held : ℚ) : UnpackedFloat → Prop where
  | kept {u : UnpackedFloat} (holds : Holds held u) : Packed held u
  | overflow (large : 2 ^ 1024 ≤ held) : Packed held (.infinity .positive)

/-- A number below the largest power of two is kept. -/
theorem Packed.of_lt (packed : Packed a u) (small : a < 2 ^ 1024) : Holds a u := by
  cases packed with
  | kept holds => exact holds
  | overflow large => exact absurd small large.not_gt

/-- A number that is still finite has been kept. -/
theorem Packed.of_finite (packed : Packed a u) (finite : u.isFinite = true) : Holds a u := by
  cases packed with
  | kept holds => exact holds
  | overflow large => cases finite

/-- Packing keeps a number or makes it an infinity. -/
theorem Holds.pack (holds : Holds a u) : Packed a (Float.Model.pack u).unpack := by
  cases holds with
  | zero sign none =>
    rw [unpack_pack_zero]
    exact .kept (.zero sign none)
  | @finite mantissa exponent positive canonical same =>
    by_cases bounded : exponent ≤ 971
    · rw [unpack_pack positive canonical bounded]
      exact .kept (.finite canonical same)
    · -- The exponent has no place among those of finite numbers.
      have beyond : 2 ^ Format.binary64.exponentBits ≤ (exponent + Format.binary64.exponentBias +
          Format.binary64.mantissaBitsWithoutImplicit).toNat + 1 := by
        show 2048 ≤ (exponent + 1023 + 52).toNat + 1
        omega
      have infinite : Float.Model.pack (.finite .positive mantissa exponent positive) =
          Float.Model.pack (.infinity .positive) := by
        simp only [Float.Model.pack, UnpackedFloat.pack, if_pos beyond]
      -- No exponent is this large for a short mantissa, so the number is past the largest finite one.
      have leading : 2 ^ 52 ≤ mantissa := canonical.used.resolve_right (by omega)
      rw [infinite]
      refine .overflow ?_
      calc (2 : ℚ) ^ 1024 = 2 ^ 52 * 2 ^ (972 : Int) := by
            rw [← zpow_natCast, ← zpow_natCast, ← zpow_add₀ two_ne_zero]
            rfl
        _ ≤ (mantissa : ℚ) * 2 ^ exponent := by
            gcongr
            · exact_mod_cast leading
            · norm_num
            · omega
        _ = a := same.symm

/-- A finite double that is not negative holds a number. -/
theorem holds_of_finite (nonnegative : 0.0 ≤ x) (finite : x.isFinite = true) :
    ∃ held, Holds held x.toModel.unpack := by
  -- Only zeros and positive numbers are finite and not below zero.
  have zero : (0.0 : Float).toModel.unpack = .zero .positive := rfl
  rw [le_iff, zero] at nonnegative
  have finite : x.toModel.unpack.isFinite = true := finite
  cases found : x.toModel.unpack with
  | notANumber => simp [found, UnpackedFloat.isFinite] at finite
  | infinity sign => simp [found, UnpackedFloat.isFinite] at finite
  | zero sign => exact ⟨0, .zero sign rfl⟩
  | finite sign mantissa exponent positive =>
    cases sign with
    | negative => simp [found, UnpackedFloat.le, UnpackedFloat.compare] at nonnegative
    | positive => exact ⟨_, .finite (unpack_canonical found).1 rfl⟩

/-- A finite number above zero holds a positive one. -/
theorem holds_of_positive (positive : 0.0 < x) (finite : x.isFinite = true) :
    ∃ held > 0, Holds held x.toModel.unpack := by
  obtain ⟨held, holds⟩ := holds_of_finite (float_le_of_lt positive) finite
  exact ⟨held, (holds_zero.lt_iff_lt holds).mp positive, holds⟩

/-- Doubles are added by what they hold. -/
theorem unpack_add (x y : Float) : (x + y).toModel.unpack = (Float.Model.pack
    (UnpackedFloat.add Format.binary64 x.toModel.unpack y.toModel.unpack)).unpack := rfl

/-- So they are subtracted. -/
theorem unpack_sub (x y : Float) : (x - y).toModel.unpack = (Float.Model.pack
    (UnpackedFloat.sub Format.binary64 x.toModel.unpack y.toModel.unpack)).unpack := rfl

/-- So they are multiplied. -/
theorem unpack_mul (x y : Float) : (x * y).toModel.unpack = (Float.Model.pack
    (UnpackedFloat.mul Format.binary64 x.toModel.unpack y.toModel.unpack)).unpack := rfl

/-- So they are divided. -/
theorem unpack_div (x y : Float) : (x / y).toModel.unpack = (Float.Model.pack
    (UnpackedFloat.div Format.binary64 x.toModel.unpack y.toModel.unpack)).unpack := rfl

/-- A sum of doubles is rounded and packed. -/
theorem packed_add (left : Holds a x.toModel.unpack) (right : Holds b y.toModel.unpack) :
    ∃ rounded, Rounds (a + b) rounded ∧ Packed rounded (x + y).toModel.unpack := by
  -- The rounded sum has any exponent, and packing is where it may become infinite.
  obtain ⟨rounded, rounds, holds⟩ := left.add right
  rw [unpack_add]
  exact ⟨rounded, rounds, holds.pack⟩

/-- So is a product. -/
theorem packed_mul (left : Holds a x.toModel.unpack) (right : Holds b y.toModel.unpack) :
    ∃ rounded, Rounds (a * b) rounded ∧ Packed rounded (x * y).toModel.unpack := by
  obtain ⟨rounded, rounds, holds⟩ := left.mul right
  rw [unpack_mul]
  exact ⟨rounded, rounds, holds.pack⟩

/-- So is a quotient. -/
theorem packed_div (left : Holds a x.toModel.unpack) (right : Holds b y.toModel.unpack) (some : 0 < b) :
    ∃ rounded, Rounds (a / b) rounded ∧ Packed rounded (x / y).toModel.unpack := by
  obtain ⟨rounded, rounds, holds⟩ := left.div right some
  rw [unpack_div]
  exact ⟨rounded, rounds, holds.pack⟩

/-- Rounding leaves small numbers small. -/
theorem Rounds.lt_of_le {exact rounded : ℚ} (rounds : Rounds exact rounded) (positive : 0 ≤ exact)
    (small : exact ≤ 2 ^ 200) : rounded < 2 ^ 1024 := by
  -- The error of rounding is at most a part of the number, or half of the smallest step.
  have near := (abs_le.mp (rounds.near positive)).2
  have tiny : (2 : ℚ) ^ (-1075 : Int) ≤ 1 := zpow_le_one_of_nonpos₀ (by norm_num) (by norm_num)
  have error : exact / 2 ^ 53 ≤ exact := div_le_self positive (by norm_num)
  calc rounded ≤ 2 * exact + 1 := by linarith only [near, tiny, error]
    _ ≤ 2 * 2 ^ 200 + 1 := by linarith only [small]
    _ < 2 ^ 202 := by norm_num
    _ ≤ 2 ^ 1024 := pow_le_pow_right₀ (by norm_num) (by norm_num)

/-- The whole part of a finite number is its mantissa without the places behind the point. -/
theorem roundToInt_eq_floor (mantissa : Nat) (exponent : Int) :
    (roundToInt .positive mantissa exponent).toNat = ⌊(mantissa * 2 ^ exponent : ℚ)⌋₊ := by
  -- A positive exponent widens the mantissa, and a negative one drops places.
  obtain ⟨front, ahead⟩ : ∃ front : Nat, (exponent - 0).toNat = front := ⟨_, rfl⟩
  obtain ⟨back, behind⟩ : ∃ back : Nat, (0 - (exponent - front)).toNat = back := ⟨_, rfl⟩
  -- Both shifts together multiply by one power of two and divide by another.
  have whole : roundToInt .positive mantissa exponent = (mantissa * 2 ^ front / 2 ^ back : Nat) := by
    unfold roundToInt decreaseExponent shiftToExponent
    simp only [ahead, behind, Nat.shiftLeft_eq, shiftRight_mantissa, mantissa_ofMantissaAndAccuracy]
    rfl
  -- The exponent is the difference of the two shifts.
  have split : (mantissa * 2 ^ exponent : ℚ) = ((mantissa * 2 ^ front : Nat) : ℚ) / (2 ^ back : Nat) := by
    have : exponent = front - back := by omega
    rw [this, zpow_sub₀ two_ne_zero, zpow_natCast, zpow_natCast]
    push_cast
    ring
  rw [whole, split, Int.toNat_natCast, Nat.floor_div_eq_div]

/-- Clamping a number to a word keeps it or makes it the largest word. -/
theorem toNat_ofNatClamp (n : Nat) : (UInt64.ofNatClamp n).toNat = min n (2 ^ 64 - 1) := by
  have size : UInt64.size = 2 ^ 64 := rfl
  -- A number below the size is its own word, and any other one becomes the last word.
  unfold UInt64.ofNatClamp
  split
  · rw [UInt64.toNat_ofNatLT]
    omega
  · simp only [UInt64.toNat_ofNatLT]
    omega

/-- The whole part of a double as a count: nothing for a negative double or for what is no number, and the
largest word for whatever exceeds it, infinity included. -/
def saturatedFloor (x : Float) : Nat :=
  if x.isInf = true ∧ 0.0 < x then 2 ^ 64 - 1 else min ⌊toRat x⌋₊ (2 ^ 64 - 1)

/-- A count of this kind fits a word. -/
theorem saturatedFloor_lt (x : Float) : saturatedFloor x < 2 ^ 64 := by
  unfold saturatedFloor
  split <;> omega

/-- The conversion to a word takes the whole part of any double. -/
theorem toNat_toUInt64_eq (x : Float) : x.toUInt64.toNat = saturatedFloor x := by
  -- The conversion rounds towards zero and then clamps, and both sides ask the same of the unpacked number.
  have clamped : x.toUInt64.toNat =
      min (x.toModel.unpack.toInt 0 (UInt64.size - 1)).toNat (2 ^ 64 - 1) := toNat_ofNatClamp _
  have infinite : x.isInf = x.toModel.unpack.isInf := rfl
  have above : 0.0 < x ↔ UnpackedFloat.lt (.zero .positive) x.toModel.unpack = true := lt_iff 0.0 x
  unfold saturatedFloor
  simp only [clamped, infinite, above, toRat]
  cases x.toModel.unpack with
  | notANumber => rfl
  | infinity sign => cases sign <;> rfl
  | zero sign => rfl
  | finite sign mantissa exponent positive =>
    rw [if_neg (fun both => Bool.noConfusion both.1)]
    cases sign with
    | negative =>
      -- What is below zero has no whole part to count, and neither does its opposite with the sign.
      have below : ((-(mantissa : Int) : Int) : ℚ) * 2 ^ exponent ≤ 0 := by
        push_cast
        have : (0 : ℚ) ≤ mantissa * 2 ^ exponent := by positivity
        linarith
      have nothing : (roundToInt .negative mantissa exponent).toNat = 0 :=
        Int.toNat_of_nonpos (Int.neg_nonpos_of_nonneg (Int.natCast_nonneg _))
      show min (roundToInt .negative mantissa exponent).toNat _ = _
      rw [nothing, value, Sign.apply, Nat.floor_of_nonpos below]
    | positive =>
      show min (roundToInt .positive mantissa exponent).toNat _ = _
      rw [roundToInt_eq_floor]
      rfl

/-- The whole part of a double that holds a number. -/
theorem Holds.toNat_toUInt64 (holds : Holds a x.toModel.unpack) :
    x.toUInt64.toNat = min ⌊a⌋₊ (2 ^ 64 - 1) := by
  have bounded : x.isInf = false := holds.isInf
  rw [toNat_toUInt64_eq, saturatedFloor, if_neg (by simp [bounded]), toRat, holds.value_eq]

/-- A word is rounded to a double. -/
theorem holds_toFloat (word : UInt64) :
    ∃ rounded, Rounds (word.toNat : ℚ) rounded ∧ Holds rounded word.toFloat.toModel.unpack := by
  -- A word is far below the largest power of two, so packing keeps it.
  have small : (word.toNat : ℚ) ≤ 2 ^ 200 := by
    have : word.toNat ≤ 2 ^ 200 := by
      have := word.toNat_lt
      omega
    exact_mod_cast this
  have made : word.toFloat.toModel.unpack = (Float.Model.pack
      (UnpackedFloat.normalize Format.binary64 word.toNat 0 .positive)).unpack := rfl
  rw [made]
  rcases Nat.eq_zero_or_pos word.toNat with none | some
  · -- Zero is not rounded at all.
    rw [none, Nat.cast_zero]
    have zero : Holds 0 (.zero .positive) := .zero .positive rfl
    exact ⟨0, zero.rounds_self, zero⟩
  · have compared : compare (word.toNat : Int) 0 = .gt := by
      rw [Int.compare_eq_gt]
      omega
    obtain ⟨rounded, rounds, holds⟩ := holds_round some 0
    rw [zpow_zero, mul_one] at rounds
    unfold UnpackedFloat.normalize
    rw [compared]
    exact ⟨rounded, rounds, holds.pack.of_lt (rounds.lt_of_le (Nat.cast_nonneg _) small)⟩

/-- The product of two positive numbers multiplies the mantissas and adds the exponents. -/
theorem mul_positive {mantissa wider : Nat} {exponent further : Int} (some : 0 < mantissa)
    (also : 0 < wider) :
    UnpackedFloat.mul Format.binary64 (.finite .positive mantissa exponent some)
        (.finite .positive wider further also) =
      roundWithAccuracy Format.binary64 .positive (mantissa * wider) (exponent + further) .exact := rfl

/-- A whole numeral is a mantissa with 53 bits behind the point, times a power of ten that is one. -/
theorem ofScientific_whole {count : Nat} (positive : 0 < count) :
    UnpackedFloat.ofScientific Format.binary64 count 0 =
      roundWithAccuracy Format.binary64 .positive (count * 2 ^ 53) (-53) .exact := by
  -- Neither of the two guards against extreme powers of ten applies.
  have high : ¬ (0 : Int) > 2 ^ Format.binary64.exponentBits := not_lt.mpr (by positivity)
  have low : ¬ (0 : Int) < -((2 ^ Format.binary64.exponentBits : Int) + count.log2) := by
    have : (0 : Int) ≤ 2 ^ Format.binary64.exponentBits + (count.log2 : Int) := by positivity
    omega
  have bits : Format.binary64.mantissaBits = 53 := rfl
  rw [UnpackedFloat.ofScientific, dif_neg positive.ne', if_neg high, if_neg low, if_pos le_rfl,
    mul_positive, bits, Nat.shiftLeft_eq, Int.toNat_zero, pow_zero, mul_one, Int.add_zero]
  rfl

/-- A short numeral is converted and multiplied with one, and neither step changes it. -/
theorem holds_ofNat_exact {count : Nat} (short : count < 2 ^ 53) :
    Holds count (Float.ofNat count).toModel.unpack := by
  have word : count.toUInt64.toNat = count := by
    rw [Nat.toUInt64, UInt64.toNat_ofNat']
    omega
  -- The numeral has no decimal places, so the power of ten in the product is the stored one.
  have product : Float.ofNat count = count.toUInt64.toFloat * Float.ofBits 0x3FF0000000000000 := by
    unfold Float.ofNat
    show Float.ofScientific count false 0 = _
    rw [Float.ofScientific, dif_pos ⟨short, by decide⟩]
    rfl
  have one : Holds 1 (Float.ofBits 0x3FF0000000000000).toModel.unpack := by
    have stored : (Float.ofBits 0x3FF0000000000000).toModel.unpack =
        .finite .positive (2 ^ 52) (-52) (by decide) := rfl
    rw [stored]
    exact .finite ⟨by decide, by decide, .inl (by decide)⟩ (by norm_num)
  -- The word is no longer than a mantissa, so rounding leaves it, and it leaves the product as well.
  obtain ⟨converted, rounds, holds⟩ := holds_toFloat count.toUInt64
  rw [word] at rounds
  rw [rounds.eq_whole short] at holds
  obtain ⟨rounded, again, packed⟩ := packed_mul holds one
  rw [mul_one] at again
  have small : (count : ℚ) ≤ 2 ^ 200 := by
    have : count ≤ 2 ^ 200 := by omega
    exact_mod_cast this
  have kept := packed.of_lt (again.lt_of_le (Nat.cast_nonneg _) small)
  rw [product]
  rwa [again.eq_whole short] at kept

/-- A long numeral is rounded at once. -/
theorem holds_ofNat_long {count : Nat} (long : 2 ^ 53 ≤ count) (fits : count < 2 ^ 64) :
    ∃ rounded, Rounds (count : ℚ) rounded ∧ Holds rounded (Float.ofNat count).toModel.unpack := by
  have positive : 0 < count * 2 ^ 53 := by omega
  have made : (Float.ofNat count).toModel.unpack = (Float.Model.pack
      (roundWithAccuracy Format.binary64 .positive (count * 2 ^ 53) (-53) .exact)).unpack := by
    unfold Float.ofNat
    show (Float.ofScientific count false 0).toModel.unpack = _
    rw [Float.ofScientific, dif_neg (fun both => both.1.not_ge long)]
    exact congrArg (fun u => (Float.Model.pack u).unpack) (ofScientific_whole (by omega))
  -- The mantissa was widened by 53 bits, so rounding to 53 bits never needs a smaller exponent.
  have low : -53 ≤ roundedExponent (count * 2 ^ 53) (-53) := by
    have : 52 ≤ (count * 2 ^ 53).log2 := (Nat.le_log2 positive.ne').mpr (by omega)
    unfold roundedExponent
    omega
  obtain ⟨rounded, rounds, holds⟩ :=
    holds_roundWithAccuracy (approximates_exact (count * 2 ^ 53)) low (.inl positive)
  -- The 53 bits behind the point are zeros, so what is rounded is the numeral.
  have same : ((count * 2 ^ 53 : Nat) : ℚ) * 2 ^ (-53 : Int) = count := by
    push_cast
    rw [mul_assoc]
    norm_num
  rw [same] at rounds
  have small : (count : ℚ) ≤ 2 ^ 200 := by
    have : count ≤ 2 ^ 200 := by omega
    exact_mod_cast this
  rw [made]
  exact ⟨rounded, rounds, holds.pack.of_lt (rounds.lt_of_le (Nat.cast_nonneg _) small)⟩

/-- A natural number that fits into a word is rounded to a double. -/
theorem holds_ofNat {count : Nat} (fits : count < 2 ^ 64) :
    ∃ rounded, Rounds (count : ℚ) rounded ∧ Holds rounded (Float.ofNat count).toModel.unpack := by
  rcases Nat.lt_or_ge count (2 ^ 53) with short | long
  · -- What has been converted exactly is its own rounding.
    exact ⟨count, (holds_ofNat_exact short).rounds_self, holds_ofNat_exact short⟩
  · exact holds_ofNat_long long fits

end Decksmith.Binary64
