import Decksmith.Decimal.Numeral
import Decksmith.Toml.Quoted
import Decksmith.Toml.Value

/-! Integers and floating-point numbers. -/

namespace Decksmith.Toml

/-- Reads digits. A low line may stand between two of them and is left out. -/
def readDigits (isDigit : Char → Bool) : List Char → List Char × List Char
  | [] => ([], [])
  | c :: rest =>
    if isDigit c then
      let others := readDigits isDigit rest
      (c :: others.1, others.2)
    else if c = '_' ∧ rest.head?.any isDigit then readDigits isDigit rest
    else ([], c :: rest)

/-- Reads at least one digit. -/
def readDigits? (isDigit : Char → Bool) (text : List Char) : Option (List Char × List Char) :=
  if text.head?.any isDigit then some (readDigits isDigit text) else none

/-- Reads the digits of a decimal integer. Only zero itself starts with a zero. -/
def readWhole? : List Char → Option (List Char × List Char)
  | '0' :: rest => some (['0'], rest)
  | text => readDigits? Char.isDigit text

/-- An integer, if it has at most sixty-four bits. -/
def integer? (value : Int) : Option Value :=
  if Int64.minValue.toInt ≤ value ∧ value ≤ Int64.maxValue.toInt then some (.integer value)
  else none

/-- Reads an integer to a base other than ten, behind its base mark. -/
def readBased? (base : Nat) (text : List Char) : Option (Value × List Char) := do
  let isDigit := fun c => (Text.hexDigit? c).any (· < base)
  let (digits, rest) ← readDigits? isDigit text
  let value := digits.foldl (fun value c => base * value + (Text.hexDigit? c).getD 0) 0
  return (← integer? value, rest)

/-- Reads the digits behind a decimal point; without a point there are none. -/
def readFraction? : List Char → Option (List Char × List Char)
  | '.' :: rest => readDigits? Char.isDigit rest
  | text => some ([], text)

/-- Reads an exponent; without one there is none. -/
def readExponent? : List Char → Option (Option Int × List Char)
  | [] => some (none, [])
  | c :: rest =>
    if c = 'e' ∨ c = 'E' then do
      let (negative, unsigned) := Decimal.splitSign rest
      let (digits, rest) ← readDigits? Char.isDigit unsigned
      let value : Int := Decimal.digitsValue digits
      return (some (if negative then -value else value), rest)
    else some (none, c :: rest)

/-- A number with a fraction or an exponent. Only towards the negative side may it be too large. -/
def float? (negative : Bool) (numeral : Decimal.Numeral) : Option Value :=
  let magnitude := numeral.toFloat
  if negative then some (.float (-magnitude))
  else if magnitude.isFinite then some (.float magnitude)
  else none

/-- Reads a decimal number behind its sign. -/
def readDecimal? (negative : Bool) (text : List Char) : Option (Value × List Char) := do
  let (whole, rest) ← readWhole? text
  let (fraction, rest) ← readFraction? rest
  let (exponent, rest) ← readExponent? rest
  -- A fraction or an exponent makes a float, however whole its value is.
  if fraction.isEmpty && exponent.isNone then
    let value : Int := Decimal.digitsValue whole
    return (← integer? (if negative then -value else value), rest)
  else
    let numeral : Decimal.Numeral :=
      ⟨Decimal.digitsValue (whole ++ fraction), exponent.getD 0 - fraction.length⟩
    return (← float? negative numeral, rest)

/-- Reads a number behind its sign: an infinity, a NaN or a decimal number. -/
def readUnsigned? (negative : Bool) : List Char → Option (Value × List Char)
  | 'i' :: 'n' :: 'f' :: rest =>
    some (.float (if negative then -(1.0 / 0.0) else 1.0 / 0.0), rest)
  | 'n' :: 'a' :: 'n' :: rest => some (.float (0.0 / 0.0), rest)
  | text => readDecimal? negative text

/-- Reads a number. A base mark stands without a sign. -/
def readNumber? : List Char → Option (Value × List Char)
  | '0' :: 'x' :: rest => readBased? 16 rest
  | '0' :: 'o' :: rest => readBased? 8 rest
  | '0' :: 'b' :: rest => readBased? 2 rest
  | text =>
    let (negative, unsigned) := Decimal.splitSign text
    readUnsigned? negative unsigned

end Decksmith.Toml
