import Decksmith.Decimal.Numeral
import Decksmith.Json.Value
import Decksmith.Text.Escaped

/-! Reading JSON. -/

namespace Decksmith.Json

/-- Reads a value: what it is, and the text behind it. -/
abbrev ValueReader := List Char → Option (Value × List Char)

/-- Whether a character may stand between the parts of a value. -/
def isBlank (c : Char) : Bool :=
  c == ' ' || c == '\t' || c == '\n' || c == '\r'

/-- The text behind blanks. -/
def skipBlank (text : List Char) : List Char :=
  text.dropWhile isBlank

/-- Reads the four digits of an escape. Characters beyond sixteen bits are written as two escapes in a
row, and neither half means anything without the other. -/
def readUnicode? (text : List Char) : Option (Char × List Char) := do
  let (code, rest) ← Text.readCode? 4 text
  if 0xD800 ≤ code ∧ code < 0xDC00 then
    match rest with
    | '\\' :: 'u' :: rest =>
      let (low, rest) ← Text.readCode? 4 rest
      guard (0xDC00 ≤ low ∧ low < 0xE000)
      let c ← Text.charOfCode? (0x10000 + (code - 0xD800) * 0x400 + (low - 0xDC00))
      return (c, rest)
    | _ => none
  else return (← Text.charOfCode? code, rest)

/-- Reads what stands behind a backslash. -/
def readEscape? : List Char → Option (Char × List Char)
  | '"' :: rest => some ('"', rest)
  | '\\' :: rest => some ('\\', rest)
  | '/' :: rest => some ('/', rest)
  | 'b' :: rest => some ('\x08', rest)
  | 'f' :: rest => some ('\x0c', rest)
  | 'n' :: rest => some ('\n', rest)
  | 'r' :: rest => some ('\r', rest)
  | 't' :: rest => some ('\t', rest)
  | 'u' :: rest => readUnicode? rest
  | _ => none

/-- Reads one character of a text. -/
def readPiece? : Text.PieceReader
  | '\\' :: rest => (readEscape? rest).map fun read => ([read.1], read.2)
  | c :: rest => if c = '"' ∨ c < ' ' then none else some ([c], rest)
  | [] => none

/-- Reads a text behind its opening quote. -/
def readText? (turns : Nat) (text : List Char) : Option (String × List Char) :=
  Text.readClosed? readPiece? turns ['"'] text

/-- Whether digits may be the whole part of a number: only zero itself starts with a zero. -/
def isWhole (digits : List Char) : Bool :=
  digits ≠ [] && digits.all Char.isDigit && (digits.head? ≠ some '0' || digits.length = 1)

/-- Reads the characters of a number. Negative zero is a float. -/
def numberOf? (text : List Char) : Option Value := do
  let (negative, unsigned) := Decimal.splitSign text
  let (whole, rest) := unsigned.span Char.isDigit
  guard (text.head? ≠ some '+' ∧ isWhole whole ∧ rest ≠ ['.'])
  let magnitude : Int := Decimal.digitsValue whole
  let value := if negative then -magnitude else magnitude
  -- An integer cannot carry the sign of negative zero.
  let isInteger := rest.isEmpty && !(negative && magnitude == 0)
  if isInteger ∧ Int64.minValue.toInt ≤ value ∧ value < UInt64.size then return .integer value
  else return .float (← Decimal.read? text)

/-- Whether a character may be part of a number. -/
def isNumberPart (c : Char) : Bool :=
  c.isDigit || c == '-' || c == '+' || c == '.' || c == 'e' || c == 'E'

/-- Reads the items of an array, of which there is at least one. -/
def readItems? (item? : ValueReader) : Nat → List Char → Option (List Value × List Char)
  | 0, _ => none
  | turns + 1, text => do
    let (item, rest) ← item? text
    match skipBlank rest with
    | ',' :: rest =>
      let (others, rest) ← readItems? item? turns rest
      return (item :: others, rest)
    | ']' :: rest => return ([item], rest)
    | _ => none

/-- Reads a name, a colon and a value. -/
def readEntry? (item? : ValueReader) (turns : Nat) (text : List Char) :
    Option ((String × Value) × List Char) :=
  match skipBlank text with
  | '"' :: rest => do
    let (name, rest) ← readText? turns rest
    match skipBlank rest with
    | ':' :: rest =>
      let (value, rest) ← item? rest
      return ((name, value), rest)
    | _ => none
  | _ => none

/-- Reads the entries of an object, of which there is at least one. -/
def readEntries? (item? : ValueReader) :
    Nat → List Char → Option (List (String × Value) × List Char)
  | 0, _ => none
  | turns + 1, text => do
    let (entry, rest) ← readEntry? item? turns text
    match skipBlank rest with
    | ',' :: rest =>
      let (others, rest) ← readEntries? item? turns rest
      return (entry :: others, rest)
    | '\x7d' :: rest => return ([entry], rest)
    | _ => none

/-- Reads a value that is neither an array nor an object. -/
def readScalar? (turns : Nat) : ValueReader
  | 'n' :: 'u' :: 'l' :: 'l' :: rest => some (.null, rest)
  | 't' :: 'r' :: 'u' :: 'e' :: rest => some (.boolean true, rest)
  | 'f' :: 'a' :: 'l' :: 's' :: 'e' :: rest => some (.boolean false, rest)
  | '"' :: rest => (readText? turns rest).map fun read => (.text read.1, read.2)
  | text =>
    (numberOf? (text.takeWhile isNumberPart)).map fun n => (n, text.dropWhile isNumberPart)

/-- Reads a value with arrays and objects nested no deeper than a limit. The turns bound the length of
every part. -/
def readValue? (turns : Nat) : Nat → ValueReader
  | 0, text => readScalar? turns (skipBlank text)
  | limit + 1, text =>
    match skipBlank text with
    | '[' :: rest =>
      match skipBlank rest with
      | ']' :: rest => some (.array [], rest)
      | rest => (readItems? (readValue? turns limit) turns rest).map fun read =>
          (.array read.1, read.2)
    | '\x7b' :: rest =>
      match skipBlank rest with
      | '\x7d' :: rest => some (.object [], rest)
      | rest => (readEntries? (readValue? turns limit) turns rest).map fun read =>
          (.object read.1, read.2)
    | text => readScalar? turns text

/-- How deep arrays and objects may be nested. -/
def nestingLimit : Nat := 127

/-- The value that a text writes. The length of the text is as many turns as any of its parts needs. -/
def parse? (text : String) : Option Value := do
  let chars := text.toList
  let (value, rest) ← readValue? (chars.length + 1) nestingLimit chars
  guard (skipBlank rest = [])
  return value

end Decksmith.Json
