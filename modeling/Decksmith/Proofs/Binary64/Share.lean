import Decksmith.Proofs.Binary64.Conversion
import Decksmith.Random.Draw

/-! A share of a whole number, computed in doubles, does not exceed that number. -/

namespace Decksmith.Binary64

open Float.Model Float.Model.UnpackedFloat

/-- A probability is no number, or it is one that is not negative and at most one. -/
theorem toProbability_cases (x : Float) :
    (Random.Source.toProbability x).toModel.unpack = .notANumber ∨
      ∃ held ≤ 1, Holds held (Random.Source.toProbability x).toModel.unpack := by
  have zero : (0.0 : Float).toModel.unpack = .zero .positive := rfl
  have one : (1.0 : Float).toModel.unpack = .finite .positive (2 ^ 52) (-52) (by decide) := rfl
  -- The limits are put first, and only what lies between them or is no number passes.
  unfold Random.Source.toProbability
  split
  · exact .inr ⟨0, zero_le_one, holds_zero⟩
  · rename_i nonnegative
    split
    · exact .inr ⟨1, le_refl 1, holds_one⟩
    · rename_i most
      cases found : x.toModel.unpack with
      | notANumber => exact .inl rfl
      | zero sign => exact .inr ⟨0, zero_le_one, .zero sign rfl⟩
      -- Negative numbers lie below zero, and the infinities beyond the limits.
      | infinity sign =>
        rw [lt_iff, zero, found] at nonnegative
        rw [gt_iff_lt, lt_iff, one, found] at most
        cases sign with
        | negative => exact absurd rfl nonnegative
        | positive => exact absurd rfl most
      | finite sign mantissa exponent positive =>
        cases sign with
        | negative =>
          rw [lt_iff, zero, found] at nonnegative
          exact absurd rfl nonnegative
        | positive =>
          have holds : Holds (mantissa * 2 ^ exponent) x.toModel.unpack :=
            found ▸ .finite (unpack_canonical found).1 rfl
          rw [gt_iff_lt, holds_one.lt_iff_lt holds, not_lt] at most
          exact .inr ⟨_, most, found ▸ holds⟩

/-- A share of a natural number is no number, or it holds a product that is rounded twice. -/
theorem share_cases {count : Nat} (fits : count < 2 ^ 64) (fraction : Float) :
    (Float.ofNat count * Random.Source.toProbability fraction).toModel.unpack = .notANumber ∨
      ∃ converted portion share, Rounds (count : ℚ) converted ∧ portion ≤ 1 ∧
        Rounds (converted * portion) share ∧ 0 ≤ portion ∧
        Holds share (Float.ofNat count * Random.Source.toProbability fraction).toModel.unpack := by
  obtain ⟨converted, rounds, left⟩ := holds_ofNat fits
  rcases toProbability_cases fraction with nan | ⟨portion, most, right⟩
  · left
    -- What is no number makes the product none.
    have product : ∀ {u : UnpackedFloat}, Holds converted u →
        UnpackedFloat.mul Format.binary64 u .notANumber = .notANumber := by
      intro u holds
      cases holds <;> rfl
    rw [unpack_mul, nan, product left]
    rfl
  · right
    obtain ⟨share, again, packed⟩ := packed_mul left right
    refine ⟨converted, portion, share, rounds, most, again, right.nonneg, packed.of_lt ?_⟩
    -- The product is no larger than the number, which is far from the largest doubles.
    have least := left.nonneg
    have near := (abs_le.mp (rounds.near (Nat.cast_nonneg _))).2
    have tiny : (2 : ℚ) ^ (-1075 : Int) ≤ 1 := zpow_le_one_of_nonpos₀ (by norm_num) (by norm_num)
    have error : (count : ℚ) / 2 ^ 53 ≤ count := div_le_self (Nat.cast_nonneg _) (by norm_num)
    have word : (count : ℚ) ≤ 2 ^ 64 := by exact_mod_cast fits.le
    refine again.lt_of_le (mul_nonneg least right.nonneg) ?_
    calc converted * portion ≤ converted * 1 := by gcongr
      _ ≤ 2 * 2 ^ 64 + 1 := by linarith only [near, tiny, error, word]
      _ ≤ 2 ^ 200 := by norm_num

/-- The whole part of a share is that of the number that the double stands for, up to the largest word. -/
theorem share_eq_floor {count : Nat} (fits : count < 2 ^ 64) (fraction : Float) :
    (Float.ofNat count * Random.Source.toProbability fraction).toUInt64.toNat =
      min ⌊toRat (Float.ofNat count * Random.Source.toProbability fraction)⌋₊ (2 ^ 64 - 1) := by
  rcases share_cases fits fraction with nan | ⟨_, _, share, _, _, _, _, holds⟩
  -- What is no number is no infinity either, and its whole part is nothing on both sides.
  · have bounded : (Float.ofNat count * Random.Source.toProbability fraction).isInf = false :=
      congrArg UnpackedFloat.isInf nan
    rw [toNat_toUInt64_eq, saturatedFloor, if_neg (by simp [bounded])]
  · rw [holds.toNat_toUInt64, toRat, holds.value_eq]

/-- The whole part of a share of a natural number of at most 53 bits does not exceed the number. -/
theorem share_le {count : Nat} (exact : count < 2 ^ 53) (fraction : Float) :
    (Float.ofNat count * Random.Source.toProbability fraction).toUInt64.toNat ≤ count := by
  rcases share_cases (show count < 2 ^ 64 by omega) fraction with
    nan | ⟨converted, portion, share, rounds, most, again, nonneg, holds⟩
  -- The whole part of what is no number is zero.
  · refine (toNat_ofNatClamp _).trans_le ?_
    rw [nan]
    exact Nat.zero_le _
  -- The number is converted without an error, so only the product is rounded.
  · rw [rounds.eq_whole exact] at again
    -- The product does not exceed the number, and rounding does not either.
    have product : (count : ℚ) * portion ≤ count :=
      mul_le_of_le_one_right (Nat.cast_nonneg _) most
    have least : (⌊share⌋₊ : ℚ) ≤ share := Nat.floor_le holds.nonneg
    have : (⌊share⌋₊ : ℚ) ≤ count := least.trans (again.le_whole product exact)
    rw [holds.toNat_toUInt64]
    exact (Nat.min_le_left _ _).trans (by exact_mod_cast this)

end Decksmith.Binary64
