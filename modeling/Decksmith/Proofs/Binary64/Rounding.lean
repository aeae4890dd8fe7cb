import Decksmith.Proofs.Binary64.Canonical

/-! Rounding an exact number to a double gives a multiple of a power of two that is half of it away at
most. -/

namespace Decksmith.Binary64

open Float.Model Float.Model.UnpackedFloat

/-- The exponent that rounding brings a number to, so that at most 53 bits are left of its mantissa. -/
def roundedExponent (mantissa : Nat) (exponent : Int) : Int :=
  max (mantissa.log2 + exponent - 52) (-1074)

theorem targetExponent_eq (mantissa : Nat) (exponent : Int) :
    Format.binary64.targetExponent (totalExponent mantissa exponent) =
      roundedExponent mantissa exponent := by
  -- The total exponent counts the bits of the mantissa, which are one more than its logarithm.
  show max ((mantissa.log2 : Int) + 1 + exponent - 53) (-1074) = _
  unfold roundedExponent
  omega

/-- The two residual bits of a mantissa tell where an exact number lies between the mantissa and the next
one. -/
structure Approximates (em : ExtendedMantissa) (x : ℚ) : Prop where
  below : (em.mantissa : ℚ) ≤ x
  above : x < em.mantissa + 1
  half : em.roundBit = true ↔ em.mantissa + 1 / 2 ≤ x
  exact : em.stickyBit = false → x = em.mantissa + if em.roundBit then 1 / 2 else 0

/-- A mantissa without residual bits is exact. -/
theorem approximates_exact (mantissa : Nat) :
    Approximates (.ofMantissaAndAccuracy mantissa .exact) mantissa where
  below := le_refl _
  above := lt_add_one _
  half := by
    simp only [ExtendedMantissa.ofMantissaAndAccuracy, Bool.false_eq_true, false_iff, not_le]
    linarith
  exact _ := by simp [ExtendedMantissa.ofMantissaAndAccuracy]

/-- The residual bits of a quotient come from its remainder. -/
theorem approximates_fraction (mantissa : Nat) {num den : Nat} (proper : num < den) :
    Approximates (.ofMantissaAndAccuracy mantissa (accuracyOfFraction num den))
      (mantissa + num / den) := by
  have some : (0 : ℚ) < den := by exact_mod_cast (Nat.zero_le num).trans_lt proper
  have less : (num : ℚ) < den := by exact_mod_cast proper
  unfold accuracyOfFraction
  split
  -- No remainder leaves no residual bits.
  · rename_i none
    rw [none, Nat.cast_zero, zero_div, add_zero]
    exact approximates_exact mantissa
  -- Otherwise the fraction lies strictly between the mantissa and the next one.
  · rename_i left
    have positive : (0 : ℚ) < num := by exact_mod_cast Nat.pos_of_ne_zero left
    have fraction : (0 : ℚ) ≤ num / den := by positivity
    have fraction' : (num : ℚ) / den < 1 := (div_lt_one some).mpr less
    -- Twice the remainder is compared with the divisor.
    cases order : compare (2 * num) den with
    | lt =>
      have lower : (2 * num : ℚ) < den := by exact_mod_cast Nat.compare_eq_lt.mp order
      have half : (num : ℚ) / den < 1 / 2 := by rw [div_lt_iff₀ some]; linarith
      refine ⟨?_, ?_, ?_, ?_⟩ <;> simp only [ExtendedMantissa.ofMantissaAndAccuracy]
      · linarith
      · linarith
      · simp only [Bool.false_eq_true, false_iff, not_le]
        linarith
      · exact nofun
    | eq =>
      have middle : (2 * num : ℚ) = den := by exact_mod_cast Nat.compare_eq_eq.mp order
      have half : (num : ℚ) / den = 1 / 2 := by rw [div_eq_iff some.ne']; linarith
      refine ⟨?_, ?_, ?_, ?_⟩ <;> simp only [ExtendedMantissa.ofMantissaAndAccuracy]
      · linarith
      · linarith
      · simp only [true_iff]
        linarith
      · intro _
        rw [half, if_true]
    | gt =>
      have higher : (den : ℚ) < 2 * num := by exact_mod_cast Nat.compare_eq_gt.mp order
      have half : 1 / 2 < (num : ℚ) / den := by rw [lt_div_iff₀ some]; linarith
      refine ⟨?_, ?_, ?_, ?_⟩ <;> simp only [ExtendedMantissa.ofMantissaAndAccuracy]
      · linarith
      · linarith
      · simp only [true_iff]
        linarith
      · exact nofun

/-- A shift by one place halves the number, and the place that is dropped becomes a residual bit. -/
theorem Approximates.shiftRightOne {em : ExtendedMantissa} {x : ℚ} (near : Approximates em x) :
    Approximates em.shiftRightOne (x / 2) := by
  -- The new round bit is the lowest bit of the mantissa, and the sticky bit collects both old ones.
  obtain ⟨mantissa, roundBit, stickyBit⟩ := em
  obtain ⟨below, above, -, exact⟩ := near
  simp only at below above exact
  rcases Nat.even_or_odd' mantissa with ⟨rest, rfl | rfl⟩
  · -- The place that is dropped is a zero, so the number lies in the lower half.
    have half : 2 * rest / 2 = rest := by omega
    push_cast at below above exact
    refine ⟨?_, ?_, ?_, ?_⟩ <;> simp only [ExtendedMantissa.shiftRightOne, half]
    · linarith
    · linarith
    · simp only [Nat.mul_mod_right, bne_self_eq_false, Bool.false_eq_true, false_iff, not_le]
      linarith
    -- Nothing was dropped before either, so the half of the number is exact.
    · intro dropped
      obtain ⟨rfl, rfl⟩ : roundBit = false ∧ stickyBit = false := by simpa using dropped
      have := exact rfl
      simp only [Bool.false_eq_true, if_false] at this
      simp [this]
  · -- The place that is dropped is a one, so the number lies in the upper half.
    have half : (2 * rest + 1) / 2 = rest := by omega
    have odd : ((2 * rest + 1) % 2 != 0) = true := by
      rw [Nat.mul_add_mod]
      rfl
    push_cast at below above exact
    refine ⟨?_, ?_, ?_, ?_⟩ <;> simp only [ExtendedMantissa.shiftRightOne, half, odd]
    · linarith
    · linarith
    · simp only [true_iff]
      linarith
    -- Nothing but this place was dropped, and it is exactly a half.
    · intro dropped
      obtain ⟨rfl, rfl⟩ : roundBit = false ∧ stickyBit = false := by simpa using dropped
      have := exact rfl
      simp only [Bool.false_eq_true, if_false] at this
      rw [this, if_true]
      ring

/-- A shift by one place more is a shift by one place after the others. -/
theorem shiftRight_succ (em : ExtendedMantissa) (count : Nat) :
    em >>> (count + 1) = (em >>> count).shiftRightOne := rfl

/-- A shift divides the number by a power of two. -/
theorem Approximates.shiftRight {em : ExtendedMantissa} {x : ℚ} (near : Approximates em x)
    (count : Nat) : Approximates (em >>> count) (x / 2 ^ count) := by
  -- One place after the other is dropped, which divides by two each time.
  induction count with
  | zero => rwa [pow_zero, div_one]
  | succ count ih =>
    rw [shiftRight_succ, pow_succ, ← div_div]
    exact ih.shiftRightOne

/-- A shift drops the lowest bits of the mantissa. -/
theorem shiftRight_mantissa (em : ExtendedMantissa) (count : Nat) :
    (em >>> count).mantissa = em.mantissa / 2 ^ count := by
  -- Repeated halving is division by the power of two.
  induction count with
  | zero => exact (Nat.div_one _).symm
  | succ count ih =>
    rw [shiftRight_succ, Nat.pow_succ, ← Nat.div_div_eq_div_mul, ← ih]
    rfl

/-- Rounding a mantissa gives an integer that is a half away from the number at most. -/
theorem Approximates.rounded {em : ExtendedMantissa} {x : ℚ} (near : Approximates em x) :
    |(em.roundedMantissa : ℚ) - x| ≤ 1 / 2 := by
  obtain ⟨mantissa, roundBit, stickyBit⟩ := em
  obtain ⟨below, above, half, exact⟩ := near
  simp only at below above half exact
  rw [abs_le]
  cases roundBit with
  | false =>
    have less : x < mantissa + 1 / 2 := by simpa using half
    cases stickyBit with
    -- Below the middle the mantissa is kept, whether it is exact or not.
    | false =>
      show -(1 / 2) ≤ (mantissa : ℚ) - x ∧ (mantissa : ℚ) - x ≤ 1 / 2
      constructor <;> linarith
    | true =>
      show -(1 / 2) ≤ (mantissa : ℚ) - x ∧ (mantissa : ℚ) - x ≤ 1 / 2
      constructor <;> linarith
  | true =>
    have more : mantissa + 1 / 2 ≤ x := half.mp rfl
    cases stickyBit with
    | false =>
      -- A tie goes to the even neighbor, whichever that is.
      have tie : x = mantissa + 1 / 2 := by simpa using exact rfl
      show -(1 / 2) ≤ ((mantissa + mantissa % 2 : Nat) : ℚ) - x ∧
        ((mantissa + mantissa % 2 : Nat) : ℚ) - x ≤ 1 / 2
      rcases Nat.mod_two_eq_zero_or_one mantissa with even | odd
      · rw [even, tie]
        push_cast
        constructor <;> linarith
      · rw [odd, tie]
        push_cast
        constructor <;> linarith
    | true =>
      -- Above the middle the next mantissa is nearer.
      show -(1 / 2) ≤ ((mantissa + 1 : Nat) : ℚ) - x ∧ ((mantissa + 1 : Nat) : ℚ) - x ≤ 1 / 2
      push_cast
      constructor <;> linarith

/-- Rounding does not pass an integer. -/
theorem le_of_near {n k : Nat} {x : ℚ} (near : |(n : ℚ) - x| ≤ 1 / 2) (above : x ≤ k) : n ≤ k := by
  -- A half above the integer is still below the next one.
  have close := (abs_le.mp near).2
  have : (n : ℚ) < k + 1 := by linarith
  exact Nat.lt_succ_iff.mp (by exact_mod_cast this)

/-- Nor does it from the other side. -/
theorem ge_of_near {n k : Nat} {x : ℚ} (near : |(n : ℚ) - x| ≤ 1 / 2) (below : (k : ℚ) ≤ x) :
    k ≤ n := by
  have close := (abs_le.mp near).1
  have : (k : ℚ) < n + 1 := by linarith
  exact Nat.lt_succ_iff.mp (by exact_mod_cast this)

/-- An unpacked number is a multiple of a power of two, and it is zero or in canonical form. -/
inductive IsMultiple (sign : Sign) (multiple : Nat) (exponent : Int) : UnpackedFloat → Prop where
  | zero (none : multiple = 0) : IsMultiple sign multiple exponent (.zero sign)
  | finite {mantissa : Nat} {stored : Int} (positive : 0 < mantissa)
      (canonical : Canonical mantissa stored)
      (same : (mantissa : ℚ) * 2 ^ stored = multiple * 2 ^ exponent) :
      IsMultiple sign multiple exponent (.finite sign mantissa stored positive)

/-- A mantissa of at most 53 bits is not shifted. -/
theorem shiftToTargetExponent_narrow {mantissa : Nat} {exponent : Int}
    (narrow : mantissa < 2 ^ 53) (lowest : -1074 ≤ exponent) :
    shiftToTargetExponent Format.binary64 mantissa exponent .exact =
      (⟨mantissa, false, false⟩, exponent) := by
  -- The mantissa already fits, so its leading bit asks for no shift.
  have bits : mantissa.log2 ≤ 52 := by
    rcases Nat.eq_zero_or_pos mantissa with rfl | positive
    · decide
    · have := (Nat.log2_lt (by omega)).mpr narrow
      omega
  -- The exponent to be reached is not above the present one.
  have still : (roundedExponent mantissa exponent - exponent).toNat = 0 := by
    unfold roundedExponent
    omega
  unfold shiftToTargetExponent shiftToExponent
  simp only [targetExponent_eq, still, Int.natCast_zero, Int.add_zero]
  rfl

/-- A mantissa that rounding has carried to 54 bits is shifted by one place. -/
theorem shiftToTargetExponent_carried {exponent : Int} (lowest : -1074 ≤ exponent) :
    shiftToTargetExponent Format.binary64 (2 ^ 53) exponent .exact =
      (⟨2 ^ 52, false, false⟩, exponent + 1) := by
  -- The power of two has one bit more than there is room for.
  have once : (roundedExponent (2 ^ 53) exponent - exponent).toNat = 1 := by
    unfold roundedExponent
    rw [Nat.log2_two_pow]
    omega
  unfold shiftToTargetExponent shiftToExponent
  simp only [targetExponent_eq, once]
  rfl

/-- Rounding shifts twice, and the second shift undoes a carry. -/
theorem roundWithAccuracy_of_shifts (sign : Sign) {mantissa final : Nat} {exponent rounded last : Int}
    {accuracy : Accuracy} {em : ExtendedMantissa}
    (first : shiftToTargetExponent Format.binary64 mantissa exponent accuracy = (em, rounded))
    (second : shiftToTargetExponent Format.binary64 em.roundedMantissa rounded .exact =
      (⟨final, false, false⟩, last)) :
    roundWithAccuracy Format.binary64 sign mantissa exponent accuracy =
      if none : final = 0 then .zero sign
      else .finite sign final last (Nat.pos_of_ne_zero none) := by
  unfold roundWithAccuracy
  simp only [first, second]

/-- The mantissa that residual bits belong to is the integer part of the number. -/
theorem mantissa_ofMantissaAndAccuracy (mantissa : Nat) (accuracy : Accuracy) :
    (ExtendedMantissa.ofMantissaAndAccuracy mantissa accuracy).mantissa = mantissa := by
  rcases accuracy with _ | order
  · rfl
  · cases order <;> rfl

/-- Rounding first shifts a mantissa by the places that the exponent lacks. -/
theorem shiftToTargetExponent_low {mantissa : Nat} {exponent : Int} (accuracy : Accuracy)
    (low : exponent ≤ roundedExponent mantissa exponent) :
    shiftToTargetExponent Format.binary64 mantissa exponent accuracy =
      (ExtendedMantissa.ofMantissaAndAccuracy mantissa accuracy >>>
        (roundedExponent mantissa exponent - exponent).toNat,
        roundedExponent mantissa exponent) := by
  -- The exponent is not lowered, so the number of places is the difference of both.
  unfold shiftToTargetExponent shiftToExponent
  rw [targetExponent_eq]
  refine Prod.ext rfl ?_
  show exponent + ((roundedExponent mantissa exponent - exponent).toNat : Int) = _
  omega

section Shifted

variable {mantissa multiple : Nat} {exponent : Int} {x : ℚ}

/-- What is left of a mantissa by the first shift rounds to 53 bits, or to the power of two above them. -/
theorem le_of_near_shifted (upper : x < mantissa + 1)
    (near : |(multiple : ℚ) - x / 2 ^ (roundedExponent mantissa exponent - exponent).toNat| ≤ 1 / 2) :
    multiple ≤ 2 ^ 53 := by
  -- Rounding does not pass this power of two, because the number is below it.
  refine le_of_near near ?_
  have bits : mantissa + 1 ≤
      2 ^ 53 * 2 ^ (roundedExponent mantissa exponent - exponent).toNat := by
    have : mantissa < 2 ^ (mantissa.log2 + 1) := Nat.lt_log2_self
    refine Nat.succ_le_of_lt (this.trans_le ?_)
    rw [← Nat.pow_add]
    refine Nat.pow_le_pow_right (by decide) ?_
    unfold roundedExponent
    omega
  rw [div_le_iff₀ (by positivity)]
  exact upper.le.trans (by exact_mod_cast bits)

/-- Above the least exponent what is left by the first shift has all 53 bits. -/
theorem ge_of_near_shifted (low : exponent ≤ roundedExponent mantissa exponent)
    (positive : 0 < mantissa) (normal : roundedExponent mantissa exponent ≠ -1074)
    (lower : (mantissa : ℚ) ≤ x)
    (near : |(multiple : ℚ) - x / 2 ^ (roundedExponent mantissa exponent - exponent).toNat| ≤ 1 / 2) :
    2 ^ 52 ≤ multiple := by
  -- The power of two with as many bits is not passed from the other side either.
  refine ge_of_near near ?_
  have bits : 2 ^ 52 * 2 ^ (roundedExponent mantissa exponent - exponent).toNat ≤ mantissa := by
    refine le_trans ?_ (Nat.log2_self_le (by omega))
    rw [← Nat.pow_add]
    refine Nat.pow_le_pow_right (by decide) ?_
    unfold roundedExponent at normal low ⊢
    omega
  rw [le_div_iff₀ (by positivity)]
  exact le_trans (by exact_mod_cast bits) lower

/-- Once the first shift is known, rounding gives the multiple that it rounds to. -/
theorem isMultiple_roundWithAccuracy (sign : Sign) {accuracy : Accuracy} {rounded : Int}
    {em : ExtendedMantissa}
    (first : shiftToTargetExponent Format.binary64 mantissa exponent accuracy = (em, rounded))
    (lowest : -1074 ≤ rounded) (most : em.roundedMantissa ≤ 2 ^ 53)
    (used : 2 ^ 52 ≤ em.roundedMantissa ∨ rounded = -1074) :
    IsMultiple sign em.roundedMantissa rounded
      (roundWithAccuracy Format.binary64 sign mantissa exponent accuracy) := by
  rcases Nat.lt_or_eq_of_le most with narrow | carried
  · -- Without a carry the second shift does nothing.
    rw [roundWithAccuracy_of_shifts sign first (shiftToTargetExponent_narrow narrow lowest)]
    split
    · rename_i none
      exact .zero none
    · rename_i left
      exact .finite (Nat.pos_of_ne_zero left) ⟨narrow, lowest, used⟩ rfl
  · -- A carry doubles the power of two and halves the mantissa.
    have second := shiftToTargetExponent_carried lowest
    rw [← carried] at second
    rw [roundWithAccuracy_of_shifts sign first second, dif_neg (by decide), carried]
    refine .finite (by decide) ⟨by decide, by omega, .inl (by decide)⟩ ?_
    rw [zpow_add_one₀ (by norm_num)]
    push_cast
    ring

end Shifted

/-- Rounding gives a multiple of the power of two that leaves at most 53 bits, half of it away from the
number at most. -/
theorem roundWithAccuracy_isMultiple (sign : Sign) {mantissa : Nat} {exponent : Int}
    {accuracy : Accuracy} {x : ℚ}
    (near : Approximates (.ofMantissaAndAccuracy mantissa accuracy) x)
    (low : exponent ≤ roundedExponent mantissa exponent)
    (some : 0 < mantissa ∨ roundedExponent mantissa exponent = -1074) :
    ∃ multiple : Nat,
      |(multiple : ℚ) - x / 2 ^ (roundedExponent mantissa exponent - exponent).toNat| ≤ 1 / 2 ∧
        IsMultiple sign multiple (roundedExponent mantissa exponent)
          (roundWithAccuracy Format.binary64 sign mantissa exponent accuracy) := by
  -- The first shift divides the number by a power of two, and what is left is rounded to an integer.
  have rounded := (near.shiftRight (roundedExponent mantissa exponent - exponent).toNat).rounded
  have lower := near.below
  have upper := near.above
  rw [mantissa_ofMantissaAndAccuracy] at lower upper
  refine ⟨_, rounded, isMultiple_roundWithAccuracy sign (shiftToTargetExponent_low accuracy low)
    (le_max_right _ _) (le_of_near_shifted upper rounded) ?_⟩
  -- The integer has all bits, unless the exponent is the least one.
  by_cases least : roundedExponent mantissa exponent = -1074
  · exact .inr least
  · exact .inl (ge_of_near_shifted low (some.resolve_right least) least lower rounded)

end Decksmith.Binary64
