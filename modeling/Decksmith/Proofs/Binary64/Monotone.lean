import Decksmith.Proofs.Binary64.Conversion
import Decksmith.Proofs.Binary64.Levels

/-! Rounding keeps the order of numbers, and does not pass a number that a double holds. Packing keeps what
is left of them in order as well. -/

namespace Decksmith.Binary64

open Float.Model Float.Model.UnpackedFloat

variable {a b exact exact' rounded rounded' held : ℚ} {u v : UnpackedFloat}

/-- Where 53 bits of a held number reach down to a power of two, the number is a multiple of it. -/
theorem Holds.multiple_of_power (holds : Holds held u) {power : Int} (lowest : -1074 ≤ power)
    (leading : power = -1074 ∨ (2 : ℚ) ^ (power + 52) ≤ held) :
    ∃ count : Nat, held = count * 2 ^ power := by
  cases holds with
  | zero sign none => exact ⟨0, by rw [none, Nat.cast_zero, zero_mul]⟩
  | @finite mantissa exponent positive canonical same =>
    -- A mantissa has less than 53 bits above its exponent, so a number this large cannot have a smaller one.
    have reached : power ≤ exponent := by
      rcases leading with rfl | leading
      · exact canonical.lowest
      · have narrow : (mantissa : ℚ) < 2 ^ (53 : Int) := by exact_mod_cast canonical.narrow
        have : (2 : ℚ) ^ (power + 52) < 2 ^ (53 + exponent) := by
          rw [zpow_add₀ two_ne_zero 53 exponent]
          refine (leading.trans_eq same).trans_lt ?_
          gcongr
        have := (zpow_lt_zpow_iff_right₀ one_lt_two).mp this
        omega
    -- The exponents differ by a shift, which goes into the mantissa.
    obtain ⟨shift, above⟩ := Int.le.dest reached
    refine ⟨mantissa * 2 ^ shift, ?_⟩
    rw [same, ← above, zpow_add₀ two_ne_zero, zpow_natCast, Nat.cast_mul, Nat.cast_pow, Nat.cast_ofNat]
    ring

/-- The power of two that 53 bits start with is a bound from below. -/
theorem RoundsAt.le_rounded {multiple : Nat} {power : Int}
    (rounding : RoundsAt exact rounded multiple power) (leading : (2 : ℚ) ^ (power + 52) ≤ exact) :
    (2 : ℚ) ^ (power + 52) ≤ rounded := by
  rw [two_zpow_add_52] at leading ⊢
  -- The power is a whole multiple of the step, and rounding to steps does not pass one.
  have : 2 ^ 52 ≤ multiple := by
    refine ge_of_near rounding.near_multiple ?_
    rw [le_div_iff₀ (by positivity)]
    exact_mod_cast leading
  rw [rounding.same]
  gcongr
  exact_mod_cast this

/-- Rounding does not pass a held number from above. -/
theorem Rounds.held_le (rounds : Rounds exact rounded) (holds : Holds held u) (within : held ≤ exact) :
    held ≤ rounded := by
  obtain ⟨multiple, power, rounding⟩ := rounds
  -- A held number has the power as a factor, or it lies below all that 53 bits reach.
  by_cases reached : power = -1074 ∨ (2 : ℚ) ^ (power + 52) ≤ held
  -- A multiple of the step is not passed.
  · obtain ⟨count, whole⟩ := holds.multiple_of_power rounding.lowest reached
    have : count ≤ multiple := by
      refine ge_of_near rounding.near_multiple ?_
      rwa [le_div_iff₀ (by positivity), ← whole]
    rw [rounding.same, whole]
    gcongr
  -- The held number is below the leading power, and the rounded one is not.
  · obtain ⟨above, below⟩ := not_or.mp reached
    exact (not_le.mp below).le.trans (rounding.le_rounded (rounding.leading.resolve_left above))

/-- A double with room for its exponent holds the power of two that 53 bits start with. -/
theorem holds_leading {power : Int} (lowest : -1074 ≤ power) :
    Holds (2 ^ (power + 52)) (.finite .positive (2 ^ 52) power (by decide)) := by
  -- The leading bit alone stands for this power.
  refine .finite ⟨by decide, lowest, .inl (le_refl _)⟩ ?_
  rw [two_zpow_add_52, Nat.cast_pow, Nat.cast_ofNat]

/-- Two multiples of a power that differ are that power apart. -/
theorem add_power_le {low high : ℚ} {count multiple : Nat} {power : Int} (less : low < high)
    (first : low = count * 2 ^ power) (second : high = multiple * 2 ^ power) :
    low + 2 ^ power ≤ high := by
  rw [first, second] at less ⊢
  -- The multiples are whole numbers, so the larger one is larger by one at least.
  have : count + 1 ≤ multiple := by
    have := lt_of_mul_lt_mul_right less (by positivity)
    exact_mod_cast this
  calc (count : ℚ) * 2 ^ power + 2 ^ power = ((count + 1 : Nat) : ℚ) * 2 ^ power := by
        push_cast
        ring
    _ ≤ multiple * 2 ^ power := by gcongr

/-- Rounding keeps the order of numbers. -/
theorem Rounds.mono (rounds : Rounds exact rounded) (rounds' : Rounds exact' rounded')
    (holds : Holds rounded u) (holds' : Holds rounded' v) (less : exact < exact') :
    rounded ≤ rounded' := by
  by_contra more
  rw [not_le] at more
  -- Both numbers would have to be rounded away from each other, across what lies between the results.
  have high : exact' < rounded := by
    by_contra passed
    exact more.not_ge (rounds'.held_le holds (not_lt.mp passed))
  obtain ⟨multiple, power, rounding⟩ := id rounds
  obtain ⟨multiple', power', rounding'⟩ := id rounds'
  -- Each of the powers is a factor of both results, so that these are far enough apart.
  obtain ⟨count', whole'⟩ := holds'.multiple_of_power rounding.lowest
    (rounding.leading.imp_right fun leading =>
      rounds'.held_le (holds_leading rounding.lowest) (leading.trans less.le))
  obtain ⟨count, whole⟩ := holds.multiple_of_power rounding'.lowest
    (rounding'.leading.imp_right fun leading => leading.trans high.le)
  have apart := add_power_le more whole' rounding.same
  have apart' := add_power_le more rounding'.same whole
  -- Each result is half of its power away at most, which is not enough to pass the other one.
  have up := (abs_le.mp rounding.near).2
  have down := (abs_le.mp rounding'.near).1
  linarith

/-- A positive number is held in one way only. -/
theorem Holds.unique (left : Holds held u) (right : Holds held v) (positive : 0 < held) : u = v := by
  -- A positive number is held as a finite one, and its canonical form is the only one.
  cases left with
  | zero sign none => exact absurd none positive.ne'
  | @finite mantissa exponent some canonical same =>
    cases right with
    | zero sign none => exact absurd none positive.ne'
    | @finite wider further some' narrow equal =>
      rw [same] at equal
      -- The exponents agree, since the larger one would make the larger number.
      obtain rfl : exponent = further := by
        rcases lt_trichotomy exponent further with less | rfl | more
        · exact absurd equal (canonical.lt_of_exponent_lt narrow less).ne
        · rfl
        · exact absurd equal (narrow.lt_of_exponent_lt canonical more).ne'
      have power : (2 : ℚ) ^ exponent ≠ 0 := by positivity
      have : (mantissa : ℚ) = wider := mul_right_cancel₀ power equal
      obtain rfl : mantissa = wider := by exact_mod_cast this
      rfl

/-- A larger number stands on a level that is no lower. -/
theorem Holds.level_le (left : Holds a u) (right : Holds b v) (first : Storable u) (second : Storable v)
    (most : a ≤ b) : level u ≤ level v := by
  -- The order of levels and the order of held numbers are one and the same comparison.
  have compared := compare_eq_compare_level first second
  rw [left.compare_eq right, Option.some_inj] at compared
  rw [← compare_le_iff_le, ← compared]
  exact compare_le_iff_le.mpr most

/-- No number stands above infinity. -/
theorem Storable.level_le (storable : Storable u) : level u ≤ 2047 * 2 ^ 52 := by
  cases storable with
  | infinity sign => cases sign <;> decide
  | zero sign => exact Int.natCast_nonneg (2047 * 2 ^ 52)
  | @finite sign mantissa exponent positive canonical bounded =>
    -- Finite numbers stand on the levels below, and negative ones below zero.
    have := canonical.steps_bounds positive bounded
    cases sign <;> simp only [level, Sign.apply] <;> omega

/-- A number that a double holds lies below the first power of two that is too large. -/
theorem Holds.lt_of_storable (holds : Holds a u) (storable : Storable u) : a < 2 ^ 1024 := by
  cases holds with
  | zero sign none =>
    rw [none]
    positivity
  | @finite mantissa exponent positive canonical same =>
    cases storable with
    | finite _ bounded =>
      -- The mantissa has 53 bits and the exponent is at most 971, which makes 1024 bits in all.
      have narrow : (mantissa : ℚ) < 2 ^ 53 := by exact_mod_cast canonical.narrow
      have power : (2 : ℚ) ^ exponent ≤ 2 ^ (971 : Int) := zpow_le_zpow_right₀ one_le_two bounded
      calc a = mantissa * 2 ^ exponent := same
        _ < 2 ^ 53 * 2 ^ exponent := by gcongr
        _ ≤ 2 ^ 53 * 2 ^ (971 : Int) := by gcongr
        _ = 2 ^ 1024 := by
          rw [← zpow_natCast, ← zpow_natCast, ← zpow_add₀ two_ne_zero]
          rfl

/-- What is left of a number that is packed is a number. -/
theorem Packed.isNaN_eq_false (packed : Packed a u) : u.isNaN = false := by
  cases packed with
  | kept holds => cases holds <;> rfl
  | overflow large => rfl

/-- A number that is packed stands no lower than a smaller one. -/
theorem Packed.le_level {x : Float.Model} (packed : Packed b x.unpack) (holds : Holds a u)
    (storable : Storable u) (most : a ≤ b) : level u ≤ level x.unpack := by
  have second := storable_unpack packed.isNaN_eq_false
  generalize x.unpack = v at packed second
  cases packed with
  | kept right => exact holds.level_le right storable second most
  -- An infinity stands above everything that can be stored.
  | overflow large => exact storable.level_le

/-- A number that is packed stands no higher than a larger one. -/
theorem Packed.level_le {x : Float.Model} (packed : Packed b x.unpack) (holds : Holds a u)
    (storable : Storable u) (most : b ≤ a) : level x.unpack ≤ level u := by
  -- Below a number that is held nothing overflows, so packing keeps the smaller one.
  have second := storable_unpack packed.isNaN_eq_false
  have kept := packed.of_lt (most.trans_lt (holds.lt_of_storable storable))
  exact kept.level_le holds second storable most

end Decksmith.Binary64
