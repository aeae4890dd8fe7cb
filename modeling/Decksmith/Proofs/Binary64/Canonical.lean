import Mathlib

-- The laws of packing and unpacking come with no smaller part of the library.

/-! The canonical form of a double: what unpacking finds, and what packing keeps. -/

namespace Decksmith.Binary64

open Float.Model Float.Model.UnpackedFloat

/-- A mantissa and an exponent as a double stores them: at most 53 bits, and all of them used unless the
exponent is the least one. -/
structure Canonical (mantissa : Nat) (exponent : Int) : Prop where
  narrow : mantissa < 2 ^ 53
  lowest : -1074 ≤ exponent
  used : 2 ^ 52 ≤ mantissa ∨ exponent = -1074

/-- The leading bit of a stored mantissa stands in front of the others. -/
theorem leadingBit_toNat (rest : BitVec 52) : (1#1 ++ rest).toNat = 2 ^ 52 + rest.toNat := by
  -- The bits do not overlap, so appending them adds their numbers.
  rw [BitVec.toNat_append, ← Nat.shiftLeft_add_eq_or_of_lt rest.isLt]
  rfl

/-- A double holds a finite number in canonical form. -/
theorem unpack_canonical {x : Float.Model} {sign : Sign} {mantissa : Nat} {exponent : Int}
    {positive : 0 < mantissa} (found : x.unpack = .finite sign mantissa exponent positive) :
    Canonical mantissa exponent ∧ exponent ≤ 971 := by
  unfold Float.Model.unpack UnpackedFloat.unpack at found
  dsimp only at found
  -- The stored mantissa has 52 bits, one less than the mantissa with its leading bit.
  have short : (@unpackMantissa Format.binary64 x.toBits.toBitVec).toNat < 2 ^ 52 :=
    (@unpackMantissa Format.binary64 x.toBits.toBitVec).isLt
  have bias : (Format.binary64.exponentBias : Int) = 1023 := rfl
  -- All exponent bits set stand for an infinity or for no number.
  split at found
  · split at found <;> cases found
  · rename_i finite
    split at found
    · rename_i least
      split at found
      · cases found
      · -- Without a leading bit the exponent is the least one.
        cases found
        have stored : (@unpackExponent Format.binary64 x.toBits.toBitVec).toNat = 0 := by
          rw [least]; rfl
        exact ⟨⟨by omega, by omega, .inr (by omega)⟩, by omega⟩
    · rename_i above
      cases found
      -- The leading bit counts, and the exponent is none of the two special ones.
      have positive : (@unpackExponent Format.binary64 x.toBits.toBitVec).toNat ≠ 0 :=
        fun zero => above (BitVec.eq_of_toNat_eq zero)
      have below : (@unpackExponent Format.binary64 x.toBits.toBitVec).toNat ≠ 2047 :=
        fun top => finite (BitVec.eq_of_toNat_eq top)
      have bounded : (@unpackExponent Format.binary64 x.toBits.toBitVec).toNat < 2 ^ 11 :=
        (@unpackExponent Format.binary64 x.toBits.toBitVec).isLt
      have leading := leadingBit_toNat (@unpackMantissa Format.binary64 x.toBits.toBitVec)
      exact ⟨⟨by omega, by omega, .inl (by omega)⟩, by omega⟩

/-- Packing keeps a zero with its sign. -/
theorem unpack_pack_zero (sign : Sign) : (Float.Model.pack (.zero sign)).unpack = .zero sign := by
  cases sign <;> rfl

/-- So it does an infinity. -/
theorem unpack_pack_infinity (sign : Sign) :
    (Float.Model.pack (.infinity sign)).unpack = .infinity sign := by
  cases sign <;> rfl

/-- Components with an exponent between the least and the greatest hold a leading bit. -/
theorem unpack_normal (sign : Sign) (stored : BitVec 11) (rest : BitVec 52)
    (above : stored.toNat ≠ 0) (below : stored.toNat ≠ 2047) :
    UnpackedFloat.unpack Format.binary64 (packComponents Format.binary64 sign stored rest) =
      .finite sign (2 ^ 52 + rest.toNat) (stored.toNat - 1075) (by omega) := by
  have bias : (Format.binary64.exponentBias : Int) = 1023 := rfl
  -- Neither special exponent is stored, so the leading bit counts.
  have finite : ¬ stored = -1#11 := fun top => below (by rw [top]; rfl)
  have normal : ¬ stored = 0#11 := fun zero => above (by rw [zero]; rfl)
  simp only [UnpackedFloat.unpack, unpackExponent_packComponents, unpackMantissa_packComponents,
    unpackSign_packComponents, Sign.ofBitVec_toBitVec, if_neg finite, if_neg normal, bias]
  congr 1
  exact leadingBit_toNat rest

/-- Components with the least exponent hold no leading bit. -/
theorem unpack_subnormal (sign : Sign) (rest : BitVec 52) (positive : 0 < rest.toNat) :
    UnpackedFloat.unpack Format.binary64 (packComponents Format.binary64 sign 0#11 rest) =
      .finite sign rest.toNat (-1074) positive := by
  -- The least exponent alone would be a zero, but a bit of the mantissa is set.
  have nonzero : ¬ rest = 0#52 := fun zero => by simp [zero] at positive
  simp only [UnpackedFloat.unpack, unpackExponent_packComponents, unpackMantissa_packComponents,
    unpackSign_packComponents, Sign.ofBitVec_toBitVec, dif_neg nonzero]
  rfl

/-- Packing keeps a finite number in canonical form, unless it is too large. -/
theorem unpack_pack {sign : Sign} {mantissa : Nat} {exponent : Int} (positive : 0 < mantissa)
    (canonical : Canonical mantissa exponent) (bounded : exponent ≤ 971) :
    (Float.Model.pack (.finite sign mantissa exponent positive)).unpack =
      .finite sign mantissa exponent positive := by
  obtain ⟨narrow, lowest, used⟩ := canonical
  -- The exponent is small enough, so packing does not give an infinity.
  have fits : ¬ 2 ^ Format.binary64.exponentBits ≤ (exponent + Format.binary64.exponentBias +
      Format.binary64.mantissaBitsWithoutImplicit).toNat + 1 := by
    show ¬ 2048 ≤ (exponent + 1023 + 52).toNat + 1
    omega
  show UnpackedFloat.unpack Format.binary64
    (UnpackedFloat.pack Format.binary64 (.finite sign mantissa exponent positive)) = _
  simp only [UnpackedFloat.pack, if_neg fits]
  by_cases leading : 2 ^ 52 ≤ mantissa
  · -- The leading bit is dropped, and the exponent that is stored is positive.
    -- Whether the leading bit is stored is decided by the width of the mantissa.
    have width : mantissa.log2 + 1 = Format.binary64.mantissaBits := by
      rw [(Nat.log2_eq_iff (by omega)).mpr ⟨leading, narrow⟩]
      rfl
    -- The biased exponent fits into its eleven bits, so storing it changes nothing.
    have stored : (BitVec.ofNat 11 (exponent + 1023 + 52).toNat).toNat = (exponent + 1075).toNat := by
      rw [BitVec.toNat_ofNat]
      omega
    -- The low 52 bits of the mantissa are what is left without the leading one.
    have rest : (BitVec.ofNat 52 mantissa).toNat = mantissa - 2 ^ 52 := by
      rw [BitVec.toNat_ofNat]
      omega
    rw [if_pos width]
    refine (unpack_normal sign (BitVec.ofNat 11 (exponent + 1023 + 52).toNat)
      (BitVec.ofNat 52 mantissa) (by omega) (by omega)).trans ?_
    congr 1
    · omega
    · omega
  · -- A number without the leading bit has the least exponent, which is stored as zero.
    have width : ¬ mantissa.log2 + 1 = Format.binary64.mantissaBits := by
      have : mantissa.log2 < 52 := (Nat.log2_lt (by omega)).mpr (by omega)
      show ¬ mantissa.log2 + 1 = 53
      omega
    -- All of the mantissa fits into the stored bits.
    have rest : (BitVec.ofNat 52 mantissa).toNat = mantissa := by
      rw [BitVec.toNat_ofNat]
      omega
    rw [if_neg width]
    refine (unpack_subnormal sign (BitVec.ofNat 52 mantissa) (by omega)).trans ?_
    congr 1
    omega

end Decksmith.Binary64
