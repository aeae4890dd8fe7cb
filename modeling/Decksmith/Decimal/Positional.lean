import Decksmith.Decimal.Shortest

/-! Numbers written with as few digits as possible and never with an exponent. -/

namespace Decksmith.Decimal

/-- Writes `digits * 10 ^ place` with zeros or a decimal point, as the place demands. -/
def Digits.positional (d : Digits) : List Char :=
  -- The point stands behind the digits, among them or in front of them.
  let digits := Nat.toDigits 10 d.digits
  if 0 ≤ d.place then digits ++ List.replicate d.place.toNat '0'
  else
    let fraction := (-d.place).toNat
    if fraction < digits.length then
      digits.take (digits.length - fraction) ++ '.' :: digits.drop (digits.length - fraction)
    else '0' :: '.' :: List.replicate (fraction - digits.length) '0' ++ digits

/-- The sign that is written in front of a number. -/
def signText (negative : Bool) : List Char :=
  if negative then ['-'] else []

/-- The text of a number. Negative zero keeps its sign and NaN has none. -/
def Binary.text : Binary → List Char
  | .nan => ['N', 'a', 'N']
  | .infinite negative => signText negative ++ ['i', 'n', 'f']
  | .zero negative => signText negative ++ ['0']
  | .nonzero negative magnitude => signText negative ++ magnitude.shortest.positional

/-- Writes a number with as few digits as read back, positionally. -/
def write (x : Float) : String :=
  String.ofList (Binary.ofFloat x).text

end Decksmith.Decimal
