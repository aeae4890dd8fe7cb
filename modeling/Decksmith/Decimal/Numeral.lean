import Decksmith.Text.Blank

/-! Reading numbers written in decimal, with or without an exponent. -/

namespace Decksmith.Decimal

/-- A decimal numeral without its sign: `digits * 10 ^ exponent`. -/
structure Numeral where
  digits : Nat
  exponent : Int
deriving Repr, DecidableEq

/-- The number that a run of ASCII digits denotes. -/
def digitsValue (digits : List Char) : Nat :=
  digits.foldl (fun value c => 10 * value + (c.toNat - 48)) 0

/-- The correctly rounded value of a numeral. Exponents beyond the range of doubles are answered
without computing the power. -/
def Numeral.toFloat (n : Numeral) : Float :=
  -- The number lies below ten to the power of `top`, and not far below.
  let top := (Nat.toDigits 10 n.digits).length + n.exponent
  if n.digits = 0 then 0.0
  else if 310 < top then 1.0 / 0.0
  else if top < -400 then 0.0
  else Float.ofScientific n.digits (n.exponent < 0) n.exponent.natAbs

/-- Splits a leading sign off; without one the number is not negative. -/
def splitSign : List Char → Bool × List Char
  | '-' :: rest => (true, rest)
  | '+' :: rest => (false, rest)
  | text => (false, text)

/-- Reads what follows the digits of a numeral: nothing, or an exponent that fills the text. -/
def readExponent? : List Char → Option Int
  | [] => some 0
  | c :: rest =>
    let (negative, digits) := splitSign rest
    if (c = 'e' ∨ c = 'E') ∧ digits ≠ [] ∧ digits.all Char.isDigit then
      some (if negative then -(digitsValue digits : Int) else digitsValue digits)
    else none

/-- Splits the digits after a decimal point off. -/
def splitFraction : List Char → List Char × List Char
  | '.' :: rest => rest.span Char.isDigit
  | text => ([], text)

/-- Reads an unsigned numeral that fills the text. At least one digit stands on some side of the
decimal point. -/
def readNumeral? (text : List Char) : Option Numeral :=
  let (whole, afterWhole) := text.span Char.isDigit
  let (fraction, afterFraction) := splitFraction afterWhole
  if whole = [] ∧ fraction = [] then none
  else
    (readExponent? afterFraction).map fun exponent =>
      ⟨digitsValue (whole ++ fraction), exponent - fraction.length⟩

/-- Reads an unsigned number that fills the text: a numeral, an infinity or a NaN. -/
def readUnsigned? (text : List Char) : Option Float :=
  let name := String.ofList (text.map Char.toLower)
  if name = "inf" ∨ name = "infinity" then some (1.0 / 0.0)
  else if name = "nan" then some (0.0 / 0.0)
  else (readNumeral? text).map Numeral.toFloat

/-- Reads a number that fills the text, with an optional sign. -/
def read? (text : List Char) : Option Float :=
  let (negative, unsigned) := splitSign text
  (readUnsigned? unsigned).map fun x => if negative then -x else x

/-- Reads a finite number that fills the text but for blanks at its ends. -/
def readFinite? (text : String) : Option Float :=
  (read? (Text.trim text.toList)).filter Float.isFinite

end Decksmith.Decimal
