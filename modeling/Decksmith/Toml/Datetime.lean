import Decksmith.Decimal.Numeral
import Decksmith.Toml.Value

/-! Dates and times. They are checked, and kept as they are written. -/

namespace Decksmith.Toml

/-- Reads a number of a fixed count of digits within bounds. -/
def readField? (count low high : Nat) (text : List Char) : Option (Nat × List Char) :=
  let digits := text.take count
  let value := Decimal.digitsValue digits
  if digits.length = count ∧ digits.all Char.isDigit ∧ low ≤ value ∧ value ≤ high then
    some (value, text.drop count)
  else none

/-- Reads one given character. -/
def readMark? (mark : Char) : List Char → Option (List Char)
  | c :: rest => if c = mark then some rest else none
  | [] => none

/-- Whether a year has a leap day. -/
def isLeapYear (year : Nat) : Bool :=
  year % 4 == 0 && (year % 100 != 0 || year % 400 == 0)

/-- The number of days of a month. -/
def daysIn (year month : Nat) : Nat :=
  if month = 2 then (if isLeapYear year then 29 else 28)
  else if month ∈ [4, 6, 9, 11] then 30
  else 31

/-- The text behind a date. -/
def skipDate? (text : List Char) : Option (List Char) := do
  let (year, rest) ← readField? 4 0 9999 text
  let rest ← readMark? '-' rest
  let (month, rest) ← readField? 2 1 12 rest
  let rest ← readMark? '-' rest
  let (_, rest) ← readField? 2 1 (daysIn year month) rest
  return rest

/-- The text behind a fraction of a second. -/
def skipFraction? : List Char → Option (List Char)
  | '.' :: rest => if rest.head?.any Char.isDigit then some (rest.dropWhile Char.isDigit) else none
  | _ => none

/-- The text behind hours and minutes. -/
def skipMinutes? (text : List Char) : Option (List Char) := do
  let (_, rest) ← readField? 2 0 23 text
  let rest ← readMark? ':' rest
  let (_, rest) ← readField? 2 0 59 rest
  return rest

/-- The text behind a time of day. A minute may have a leap second. -/
def skipTime? (text : List Char) : Option (List Char) := do
  let rest ← skipMinutes? text
  let rest ← readMark? ':' rest
  let (_, rest) ← readField? 2 0 60 rest
  return (skipFraction? rest).getD rest

/-- The text behind an offset from universal time. -/
def skipOffset? : List Char → Option (List Char)
  | 'Z' :: rest => some rest
  | 'z' :: rest => some rest
  | '+' :: rest => skipMinutes? rest
  | '-' :: rest => skipMinutes? rest
  | _ => none

/-- The text behind the time of a date, with its delimiter and perhaps an offset. -/
def skipTimeOfDate? : List Char → Option (List Char)
  | c :: rest =>
    if c = 'T' ∨ c = 't' ∨ c = ' ' then
      (skipTime? rest).map fun rest => (skipOffset? rest).getD rest
    else none
  | [] => none

/-- The text behind a date, a date with a time, or a time. -/
def skipDatetime? (text : List Char) : Option (List Char) :=
  -- What does not start with a date can only be a time.
  match skipDate? text with
  | some rest => some ((skipTimeOfDate? rest).getD rest)
  | none => skipTime? text

/-- Reads a date, a date with a time, or a time. -/
def readDatetime? (text : List Char) : Option (Value × List Char) :=
  (skipDatetime? text).map fun rest =>
    (.datetime (String.ofList (text.take (text.length - rest.length))), rest)

end Decksmith.Toml
