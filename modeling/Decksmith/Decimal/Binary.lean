/-! What the sixty-four bits of a floating-point number stand for. -/

namespace Decksmith.Decimal

/-- A finite nonzero magnitude: `mantissa * 2 ^ exponent`. -/
structure Magnitude where
  mantissa : Nat
  exponent : Int
  /-- The next smaller magnitude is half as far away as the next larger one. -/
  atBoundary : Bool
deriving Repr

/-- The number that a bit pattern stands for. -/
inductive Binary where
  | nan
  | infinite (negative : Bool)
  | zero (negative : Bool)
  | nonzero (negative : Bool) (magnitude : Magnitude)
deriving Repr

/-- Splits a double-precision bit pattern into sign, exponent and fraction. -/
def Binary.ofBits (bits : UInt64) : Binary :=
  let negative := bits.toNat / 0x8000000000000000 = 1
  let exponent : Nat := bits.toNat / 0x10000000000000 % 0x800
  let fraction : Nat := bits.toNat % 0x10000000000000
  if exponent = 0x7FF then
    if fraction = 0 then .infinite negative else .nan
  else if exponent = 0 then
    if fraction = 0 then .zero negative
    else .nonzero negative ⟨fraction, -1074, false⟩
  else
    .nonzero negative
      ⟨0x10000000000000 + fraction, Int.ofNat exponent - 1075, fraction = 0 && 1 < exponent⟩

/-- The number that a double-precision value stands for. -/
def Binary.ofFloat (x : Float) : Binary :=
  .ofBits x.toBits

/-- The position of a value in the total order of doubles: the negative numbers below negative zero,
which is below positive zero, and every NaN above positive infinity. -/
def orderKey (x : Float) : Int :=
  -- Positive numbers ascend with their bits, negative ones descend.
  let bits := x.toBits.toNat
  if bits < 0x8000000000000000 then bits else -((bits - 0x8000000000000000 : Nat) : Int) - 1

/-- Whether one value comes no later than another in the total order of doubles. -/
def totalLe (x y : Float) : Bool :=
  orderKey x ≤ orderKey y

end Decksmith.Decimal
