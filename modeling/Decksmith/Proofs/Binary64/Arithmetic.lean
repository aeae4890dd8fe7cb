import Decksmith.Proofs.Binary64.Rounding
import Decksmith.Proofs.Binary64.Order

/-! Sums, products and quotients of doubles that are not negative are those of the numbers that they hold,
rounded once. -/

namespace Decksmith.Binary64

open Float.Model Float.Model.UnpackedFloat

/-- One number is what another one is rounded to: a multiple of a power of two that is half of it away at
most. The power leaves 53 bits of the exact number, unless it is the least one. -/
structure RoundsAt (exact rounded : ℚ) (multiple : Nat) (power : Int) : Prop where
  same : rounded = multiple * 2 ^ power
  near : |rounded - exact| ≤ 2 ^ power / 2
  lowest : -1074 ≤ power
  leading : power = -1074 ∨ (2 : ℚ) ^ (power + 52) ≤ exact

/-- One number is what another one is rounded to. -/
def Rounds (exact rounded : ℚ) : Prop :=
  ∃ multiple power, RoundsAt exact rounded multiple power

/-- A power of two and the one that its 53 bits start with. -/
theorem two_zpow_add_52 (power : Int) : (2 : ℚ) ^ (power + 52) = 2 ^ 52 * 2 ^ power := by
  rw [zpow_add₀ two_ne_zero, mul_comm]
  rfl

section RoundsAt

variable {exact rounded : ℚ} {multiple : Nat} {power : Int}

/-- The distance in multiples of the power that is rounded to. -/
theorem RoundsAt.near_multiple (rounds : RoundsAt exact rounded multiple power) :
    |(multiple : ℚ) - exact / 2 ^ power| ≤ 1 / 2 := by
  have positive : (0 : ℚ) < 2 ^ power := by positivity
  have near := rounds.near
  rw [rounds.same] at near
  -- Both sides of the distance are divided by the power.
  have factor : (multiple : ℚ) * 2 ^ power - exact = (multiple - exact / 2 ^ power) * 2 ^ power := by
    field_simp
  rw [factor, abs_mul, abs_of_pos positive] at near
  nlinarith

/-- A multiple of the power that is rounded to stays what it is. -/
theorem RoundsAt.eq_of_multiple (rounds : RoundsAt exact rounded multiple power) {count : Nat}
    (whole : exact = count * 2 ^ power) : rounded = exact := by
  have positive : (0 : ℚ) < 2 ^ power := by positivity
  have near := rounds.near_multiple
  rw [whole, mul_div_cancel_right₀ _ positive.ne'] at near
  -- Half of a multiple is no distance between two of them.
  have equal : multiple = count :=
    Nat.le_antisymm (le_of_near near (le_refl _)) (ge_of_near near (le_refl _))
  rw [rounds.same, whole, equal]

/-- Below 2⁵³ the power of two that is rounded to divides every whole number. -/
theorem RoundsAt.whole (rounds : RoundsAt exact rounded multiple power) (small : exact < 2 ^ 53)
    (bound : Nat) : ∃ count : Nat, (bound : ℚ) = count * 2 ^ power := by
  -- The leading power lies below 2⁵³, so the step is at most one.
  have nonpos : power ≤ 0 := by
    rcases rounds.leading with least | leading
    · omega
    · have := (zpow_lt_zpow_iff_right₀ (by norm_num : (1 : ℚ) < 2)).mp
        (leading.trans_lt (small.trans_eq (zpow_natCast (2 : ℚ) 53).symm))
      omega
  -- A power without places before the point is one over a whole number.
  obtain ⟨shift, back⟩ := Int.eq_ofNat_of_zero_le (Int.neg_nonneg_of_nonpos nonpos)
  refine ⟨bound * 2 ^ shift, ?_⟩
  have : power = -(shift : Int) := by omega
  rw [this, zpow_neg, zpow_natCast, Nat.cast_mul, Nat.cast_pow, Nat.cast_ofNat, mul_assoc,
    mul_inv_cancel₀ (by positivity), mul_one]

end RoundsAt

/-- The error of rounding is one part in 2⁵³ at most, except among the least of numbers. -/
theorem Rounds.near {exact rounded : ℚ} (rounds : Rounds exact rounded) (positive : 0 ≤ exact) :
    |rounded - exact| ≤ exact / 2 ^ 53 + 2 ^ (-1075 : Int) := by
  obtain ⟨multiple, power, -, near, -, rfl | leading⟩ := rounds
  -- Half of the least power of two is no part of the number, but half of any other power is.
  · have least : (2 : ℚ) ^ (-1074 : Int) / 2 = 2 ^ (-1075 : Int) :=
      (div_eq_iff two_ne_zero).mpr (zpow_add_one₀ two_ne_zero (-1075))
    have : 0 ≤ exact / 2 ^ 53 := by positivity
    rw [least] at near
    linarith
  · have : (0 : ℚ) < 2 ^ (-1075 : Int) := by positivity
    rw [two_zpow_add_52] at leading
    linarith

/-- A whole multiple of the least power of two has no error beyond one part in 2⁵³. -/
theorem Rounds.near_of_multiple {exact rounded : ℚ} (rounds : Rounds exact rounded) {count : Nat}
    (whole : exact = count * 2 ^ (-1074 : Int)) : |rounded - exact| ≤ exact / 2 ^ 53 := by
  obtain ⟨multiple, power, rounding⟩ := rounds
  rcases rounding.leading with rfl | leading
  -- At the least power the multiple is kept, without any error.
  · rw [rounding.eq_of_multiple whole, sub_self, abs_zero, whole]
    positivity
  -- Above it, half of the step is that part of the number.
  · have near := rounding.near
    rw [two_zpow_add_52] at leading
    linarith

/-- Rounding does not pass a whole number below 2⁵³. -/
theorem Rounds.le_whole {exact rounded : ℚ} (rounds : Rounds exact rounded) {bound : Nat}
    (within : exact ≤ bound) (small : bound < 2 ^ 53) : rounded ≤ bound := by
  obtain ⟨multiple, power, rounding⟩ := rounds
  have small : (bound : ℚ) < 2 ^ 53 := by exact_mod_cast small
  -- The bound is a multiple of the step, and rounding to steps does not pass it.
  obtain ⟨count, whole⟩ := rounding.whole (within.trans_lt small) bound
  have positive : (0 : ℚ) < 2 ^ power := by positivity
  have : multiple ≤ count := by
    refine le_of_near rounding.near_multiple ?_
    rw [div_le_iff₀ positive, ← whole]
    exact within
  rw [rounding.same, whole]
  gcongr

/-- Rounding keeps a whole number below 2⁵³. -/
theorem Rounds.eq_whole {rounded : ℚ} {bound : Nat} (rounds : Rounds bound rounded)
    (small : bound < 2 ^ 53) : rounded = bound := by
  -- A whole number is a multiple of the step, and a multiple is not changed.
  obtain ⟨multiple, power, rounding⟩ := rounds
  obtain ⟨count, whole⟩ := rounding.whole (by exact_mod_cast small) bound
  exact rounding.eq_of_multiple whole

/-- An unpacked number is not negative and holds a rational number, in canonical form. -/
inductive Holds (held : ℚ) : UnpackedFloat → Prop where
  | zero (sign : Sign) (none : held = 0) : Holds held (.zero sign)
  | finite {mantissa : Nat} {exponent : Int} {positive : 0 < mantissa}
      (canonical : Canonical mantissa exponent) (same : held = mantissa * 2 ^ exponent) :
      Holds held (.finite .positive mantissa exponent positive)

variable {a b : ℚ} {u v : UnpackedFloat}

theorem Holds.nonneg (holds : Holds a u) : 0 ≤ a := by
  -- Only positive finite numbers and zeros hold anything.
  cases holds with
  | zero sign none => exact none.ge
  | finite canonical same =>
    rw [same]
    positivity

/-- The number that is held is a multiple of the least power of two. -/
theorem Holds.multiple (holds : Holds a u) : ∃ count : Nat, a = count * 2 ^ (-1074 : Int) := by
  cases holds with
  | zero sign none => exact ⟨0, by rw [none, Nat.cast_zero, zero_mul]⟩
  | @finite mantissa exponent positive canonical same =>
    -- The exponent is at least the least one, and the difference goes into the mantissa.
    obtain ⟨shift, above⟩ := Int.le.dest canonical.lowest
    refine ⟨mantissa * 2 ^ shift, ?_⟩
    rw [same, ← above, zpow_add₀ two_ne_zero, zpow_natCast, Nat.cast_mul, Nat.cast_pow, Nat.cast_ofNat,
      mul_comm (2 ^ (-1074 : Int)), mul_assoc]

/-- A number that is held is not changed by rounding. -/
theorem Holds.rounds_self (holds : Holds a u) : Rounds a a := by
  cases holds with
  | zero sign none =>
    subst none
    exact ⟨0, -1074, by rw [Nat.cast_zero, zero_mul], by rw [sub_self, abs_zero]; positivity,
      le_refl _, .inl rfl⟩
  | @finite mantissa exponent positive canonical same =>
    -- The number is a multiple of its own power, at no distance from itself.
    refine ⟨mantissa, exponent, same, by rw [sub_self, abs_zero]; positivity, canonical.lowest, ?_⟩
    refine canonical.used.symm.imp_right fun leading => ?_
    rw [two_zpow_add_52, same]
    gcongr
    exact_mod_cast leading

/-- Rounding with the residual bits of a number gives a double that holds what the number is rounded to. -/
theorem holds_roundWithAccuracy {mantissa : Nat} {exponent : Int} {accuracy : Accuracy} {x : ℚ}
    (near : Approximates (.ofMantissaAndAccuracy mantissa accuracy) x)
    (low : exponent ≤ roundedExponent mantissa exponent)
    (some : 0 < mantissa ∨ roundedExponent mantissa exponent = -1074) :
    ∃ rounded, Rounds (x * 2 ^ exponent) rounded ∧
      Holds rounded (roundWithAccuracy Format.binary64 .positive mantissa exponent accuracy) := by
  obtain ⟨multiple, close, multiples⟩ := roundWithAccuracy_isMultiple .positive near low some
  obtain ⟨power, target⟩ : ∃ power, roundedExponent mantissa exponent = power := ⟨_, rfl⟩
  have below := near.below
  rw [mantissa_ofMantissaAndAccuracy] at below
  -- Above the least power, the highest bit of the mantissa is the first of 53.
  have leading : power = -1074 ∨ (2 : ℚ) ^ (power + 52) ≤ x * 2 ^ exponent := by
    rcases eq_or_ne power (-1074) with least | above
    · exact .inl least
    · have positive := some.resolve_right (target ▸ above)
      have bits : power + 52 = mantissa.log2 + exponent := by
        unfold roundedExponent at target
        omega
      have top : ((2 : ℚ) ^ mantissa.log2) ≤ mantissa := by
        exact_mod_cast Nat.log2_self_le (by omega)
      rw [bits, zpow_add₀ (by norm_num), zpow_natCast]
      exact .inr (by gcongr; exact top.trans below)
  have lowest : -1074 ≤ power := target ▸ le_max_right _ _
  rw [target] at low close multiples
  have rounds : RoundsAt (x * 2 ^ exponent) (multiple * 2 ^ power) multiple power := by
    refine ⟨rfl, ?_, lowest, leading⟩
    -- The shift of the mantissa is the difference of the powers.
    have scaled : (2 : ℚ) ^ power = 2 ^ exponent * 2 ^ (power - exponent).toNat := by
      rw [← zpow_natCast, ← zpow_add₀ (by norm_num)]
      congr 1
      omega
    -- So the error is that of the mantissa, in units of the power that is rounded to.
    have factor : (multiple : ℚ) * 2 ^ power - x * 2 ^ exponent =
        (multiple - x / 2 ^ (power - exponent).toNat) * 2 ^ power := by
      rw [scaled]
      field_simp
    rw [factor, abs_mul, abs_of_pos (by positivity : (0 : ℚ) < 2 ^ power)]
    calc |(multiple : ℚ) - x / 2 ^ (power - exponent).toNat| * 2 ^ power
        ≤ 1 / 2 * 2 ^ power := by gcongr
      _ = 2 ^ power / 2 := by ring
  refine ⟨multiple * 2 ^ power, ⟨multiple, power, rounds⟩, ?_⟩
  -- The rounded number is that multiple in canonical form.
  generalize roundWithAccuracy Format.binary64 .positive mantissa exponent accuracy = u at multiples ⊢
  cases multiples with
  | zero none => exact .zero _ (by rw [none, Nat.cast_zero, zero_mul])
  | finite positive canonical same => exact .finite canonical same.symm

/-- Rounding a number that is given by a mantissa and an exponent. -/
theorem holds_round {mantissa : Nat} (positive : 0 < mantissa) (exponent : Int) :
    ∃ rounded, Rounds (mantissa * 2 ^ exponent) rounded ∧
      Holds rounded (UnpackedFloat.round Format.binary64 .positive mantissa exponent) := by
  unfold UnpackedFloat.round decreaseExponent
  rw [targetExponent_eq]
  obtain ⟨places, shift⟩ :
      ∃ places, (exponent - roundedExponent mantissa exponent).toNat = places := ⟨_, rfl⟩
  simp only [shift, Nat.shiftLeft_eq]
  -- The mantissa is widened first, which changes its bits but not the number.
  have wider : (mantissa * 2 ^ places).log2 = mantissa.log2 + places := by
    refine (Nat.log2_eq_iff (by positivity)).mpr ⟨?_, ?_⟩
    · rw [Nat.pow_add]
      exact Nat.mul_le_mul_right _ (Nat.log2_self_le (by omega))
    · rw [Nat.add_right_comm, Nat.pow_add]
      exact Nat.mul_lt_mul_of_pos_right Nat.lt_log2_self (by positivity)
  -- Widened as far as the target exponent, nothing has to be widened any more.
  have low : exponent - places ≤ roundedExponent (mantissa * 2 ^ places) (exponent - places) := by
    unfold roundedExponent at shift ⊢
    omega
  obtain ⟨rounded, rounds, holds⟩ := holds_roundWithAccuracy
    (approximates_exact (mantissa * 2 ^ places)) low (.inl (by positivity))
  refine ⟨rounded, ?_, holds⟩
  -- The factor of the mantissa and that of the power cancel.
  have same : ((mantissa * 2 ^ places : Nat) : ℚ) * 2 ^ (exponent - places) =
      mantissa * 2 ^ exponent := by
    rw [zpow_sub₀ (by norm_num), zpow_natCast]
    push_cast
    field_simp
  rwa [same] at rounds

/-- A sum is rounded once. -/
theorem Holds.add (left : Holds a u) (right : Holds b v) :
    ∃ rounded, Rounds (a + b) rounded ∧ Holds rounded (UnpackedFloat.add Format.binary64 u v) := by
  cases left with
  | zero sign none =>
    -- Nothing is rounded when a zero is added, whatever its sign.
    subst none
    rw [zero_add]
    refine ⟨b, right.rounds_self, ?_⟩
    cases right with
    | zero other none => cases sign <;> cases other <;> exact .zero _ none
    | finite canonical same => exact .finite canonical same
  | @finite mantissa exponent positive canonical same =>
    cases right with
    | zero sign none =>
      subst none
      rw [add_zero]
      have holds := @Holds.finite a mantissa exponent positive canonical same
      exact ⟨a, holds.rounds_self, holds⟩
    | @finite wider further some narrow equal =>
      -- Both mantissas are widened to the smaller one of the exponents.
      obtain ⟨lower, least⟩ : ∃ lower, min exponent further = lower := ⟨_, rfl⟩
      obtain ⟨front, ahead⟩ : ∃ front : Nat, (exponent - lower).toNat = front := ⟨_, rfl⟩
      obtain ⟨back, behind⟩ : ∃ back : Nat, (further - lower).toNat = back := ⟨_, rfl⟩
      -- The exact sum is a whole multiple of the smaller power.
      have sum : a + b = ((mantissa * 2 ^ front + wider * 2 ^ back : Nat) : ℚ) * 2 ^ lower := by
        have first : exponent = lower + front := by omega
        have second : further = lower + back := by omega
        rw [same, equal, first, second, zpow_add₀ (by norm_num), zpow_add₀ (by norm_num), zpow_natCast,
          zpow_natCast]
        push_cast
        ring
      -- The sum of two positive mantissas is positive, so it is rounded on the upper side.
      have whole : UnpackedFloat.add Format.binary64 (.finite .positive mantissa exponent positive)
          (.finite .positive wider further some) =
          UnpackedFloat.round Format.binary64 .positive (mantissa * 2 ^ front + wider * 2 ^ back)
            lower := by
        simp only [UnpackedFloat.add, decreaseExponent, least, ahead, behind, Nat.shiftLeft_eq]
        have compared : compare (((mantissa * 2 ^ front : Nat) : Int) + (wider * 2 ^ back : Nat)) 0 =
            .gt := by
          rw [Int.compare_eq_gt]
          positivity
        unfold UnpackedFloat.normalize
        simp only [Sign.apply]
        rw [compared]
        rfl
      rw [whole, sum]
      exact holds_round (by positivity) lower

/-- A product is rounded once. -/
theorem Holds.mul (left : Holds a u) (right : Holds b v) :
    ∃ rounded, Rounds (a * b) rounded ∧ Holds rounded (UnpackedFloat.mul Format.binary64 u v) := by
  have nothing : Rounds 0 0 := (Holds.zero .positive rfl : Holds 0 (.zero .positive)).rounds_self
  cases left with
  | zero sign none =>
    subst none
    rw [zero_mul]
    refine ⟨0, nothing, ?_⟩
    cases right <;> exact .zero _ rfl
  | @finite mantissa exponent positive canonical same =>
    cases right with
    | zero sign none =>
      subst none
      rw [mul_zero]
      exact ⟨0, nothing, .zero _ rfl⟩
    | @finite wider further some narrow equal =>
      have low : exponent + further ≤ roundedExponent (mantissa * wider) (exponent + further) := by
        unfold roundedExponent
        -- Two leading bits make a product of at least 105 bits, and one makes it 53 of them.
        rcases canonical.used with leading | least
        · have : 52 ≤ (mantissa * wider).log2 :=
            (Nat.le_log2 (by positivity)).mpr (leading.trans (Nat.le_mul_of_pos_right _ some))
          omega
        · rcases narrow.used with leading | also
          · have : 52 ≤ (mantissa * wider).log2 :=
              (Nat.le_log2 (by positivity)).mpr (leading.trans (Nat.le_mul_of_pos_left _ positive))
            omega
          · omega
      obtain ⟨rounded, rounds, holds⟩ := holds_roundWithAccuracy
        (approximates_exact (mantissa * wider)) low (.inl (by positivity))
      refine ⟨rounded, ?_, holds⟩
      -- The mantissas are multiplied exactly, and the exponents are added.
      have product : ((mantissa * wider : Nat) : ℚ) * 2 ^ (exponent + further) = a * b := by
        rw [same, equal, zpow_add₀ (by norm_num)]
        push_cast
        ring
      rwa [product] at rounds

/-- The quotient of two mantissas is taken with at least 53 bits, or down to the least power of two. -/
theorem divCore_enough {mantissa wider : Nat} {exponent further : Int} (positive : 0 < mantissa)
    (some : 0 < wider) (narrow : mantissa < 2 ^ 53) :
    ∃ (places : Nat) (power : Int),
      divCore Format.binary64 mantissa exponent wider further =
        (mantissa * 2 ^ places / wider, power,
          accuracyOfFraction (mantissa * 2 ^ places % wider) wider) ∧
      exponent - further = power + places ∧
      (power ≤ -1074 ∨ 52 ≤ (mantissa * 2 ^ places / wider).log2) := by
  have bits : mantissa.log2 < 53 := (Nat.log2_lt (by omega)).mpr narrow
  -- The exponent that is aimed at is one less than the quotient may need.
  have target : Format.binary64.targetExponent
      (totalExponent mantissa exponent - totalExponent wider further) =
        max ((mantissa.log2 : Int) + exponent - (wider.log2 + further) - 53) (-1074) := by
    show max ((mantissa.log2 : Int) + 1 + exponent - (wider.log2 + 1 + further) - 53) (-1074) = _
    omega
  obtain ⟨power, aimed⟩ : ∃ power, min (exponent - further)
      (max ((mantissa.log2 : Int) + exponent - (wider.log2 + further) - 53) (-1074)) = power := ⟨_, rfl⟩
  -- The dividend is widened by the places that are missing.
  obtain ⟨places, shift⟩ : ∃ places : Nat, (exponent - further - power).toNat = places := ⟨_, rfl⟩
  refine ⟨places, power, ?_, by omega, ?_⟩
  · simp only [divCore, target, aimed, shift, Nat.shiftLeft_eq]
  · by_cases least : power ≤ -1074
    · exact .inl least
    -- Above the least power, the dividend has 53 bits more than the divisor.
    · have count : mantissa.log2 + places = 52 + (wider.log2 + 1) := by omega
      -- A divisor with one bit more is still contained 2⁵² times.
      have quotient : 2 ^ 52 ≤ mantissa * 2 ^ places / wider := by
        rw [Nat.le_div_iff_mul_le some]
        calc 2 ^ 52 * wider ≤ 2 ^ 52 * 2 ^ (wider.log2 + 1) :=
              Nat.mul_le_mul_left _ Nat.lt_log2_self.le
          _ = 2 ^ mantissa.log2 * 2 ^ places := by rw [← Nat.pow_add, ← Nat.pow_add, count]
          _ ≤ mantissa * 2 ^ places := Nat.mul_le_mul_right _ (Nat.log2_self_le (by omega))
      exact .inr ((Nat.le_log2 (by omega)).mpr quotient)

/-- A quotient is rounded once. -/
theorem Holds.div (left : Holds a u) (right : Holds b v) (some : 0 < b) :
    ∃ rounded, Rounds (a / b) rounded ∧ Holds rounded (UnpackedFloat.div Format.binary64 u v) := by
  cases right with
  | zero sign none => exact absurd none some.ne'
  | @finite wider further positive narrow equal =>
    cases left with
    | zero sign none =>
      subst none
      rw [zero_div]
      exact ⟨0, (Holds.zero sign rfl : Holds 0 (.zero sign)).rounds_self, .zero _ rfl⟩
    | @finite mantissa exponent also canonical same =>
      -- The quotient of the mantissas is whole up to a remainder, which gives the residual bits.
      obtain ⟨places, power, core, total, enough⟩ :=
        @divCore_enough mantissa wider exponent further also positive canonical.narrow
      generalize quotient : mantissa * 2 ^ places / wider = whole at core enough
      generalize remainder : mantissa * 2 ^ places % wider = rest at core
      have proper : rest < wider := remainder ▸ Nat.mod_lt _ positive
      -- A quotient with fewer bits has the least power of two already, also if it is zero.
      have low : power ≤ roundedExponent whole power := by
        unfold roundedExponent
        omega
      have least : 0 < whole ∨ roundedExponent whole power = -1074 := by
        refine (Nat.eq_zero_or_pos whole).symm.imp_right fun none => ?_
        subst none
        rw [Nat.log2_zero] at enough
        unfold roundedExponent
        rw [Nat.log2_zero]
        omega
      obtain ⟨rounded, rounds, holds⟩ :=
        holds_roundWithAccuracy (approximates_fraction whole proper) low least
      refine ⟨rounded, ?_, ?_⟩
      · -- The remainder is what the whole part leaves of the dividend.
        have divided : ((whole : ℚ) + rest / wider) * 2 ^ power = a / b := by
          have : (wider : ℚ) ≠ 0 := by exact_mod_cast positive.ne'
          have split : (whole : ℚ) + rest / wider = mantissa * 2 ^ places / wider := by
            field_simp
            have := Nat.div_add_mod' (mantissa * 2 ^ places) wider
            rw [quotient, remainder] at this
            exact_mod_cast this
          have first : exponent = power + places + further := by omega
          rw [split, same, equal, first, zpow_add₀ (by norm_num), zpow_add₀ (by norm_num), zpow_natCast]
          field_simp
        rwa [divided] at rounds
      · simp only [UnpackedFloat.div, core]
        exact holds

end Decksmith.Binary64
