import Decksmith.Text.Letters
import Decksmith.Text.Marks
import Decksmith.Text.Numbers
import Decksmith.Text.Punctuation
import Decksmith.Text.Symbols

/-! Character classes of Unicode 15 that are unions of the tables. -/

namespace Decksmith.Text

/-- Characters with the property Alphabetic. -/
def isAlphabetic (c : Char) : Bool :=
  letters.contains c.toNat || letterNumbers.contains c.toNat || otherAlphabetic.contains c.toNat

/-- Alphabetic and numeric characters; ASCII letters and digits are decided without the tables. -/
def isAlphanumeric (c : Char) : Bool :=
  if c.toNat < 0x80 then c.isAlphanum
  else isAlphabetic c || numbers.contains c.toNat

/-- Digits of any decimal system. -/
def isDecimalDigit (c : Char) : Bool :=
  if c.toNat < 0x80 then c.isDigit
  else decimalDigits.contains c.toNat

/-- Characters that count as part of a word in a pattern: alphabetic characters, marks, decimal
digits, connectors and the two join controls. -/
def isWordPart (c : Char) : Bool :=
  if c.toNat < 0x80 then c.isAlphanum || c == '_'
  else isAlphabetic c || marks.contains c.toNat || decimalDigits.contains c.toNat ||
    connectors.contains c.toNat || c.toNat == 0x200C || c.toNat == 0x200D

/-- The one-letter general categories. -/
inductive Category where
  | letter
  | mark
  | number
  | punctuation
  | symbol
  | separator
  | other
deriving DecidableEq, Repr

/-- Whether a character belongs to a category; `other` holds what no table lists. -/
def Category.contains (category : Category) (c : Char) : Bool :=
  let code := c.toNat
  match category with
  | letter => letters.contains code
  | mark => marks.contains code
  | number => numbers.contains code
  | punctuation => Text.punctuation.contains code
  | symbol => symbols.contains code
  | separator => separators.contains code
  | other =>
    !(letters.contains code || marks.contains code || numbers.contains code ||
      Text.punctuation.contains code || symbols.contains code || separators.contains code)

/-- The category that a capital letter abbreviates. -/
def Category.ofLetter? : Char → Option Category
  | 'L' => some letter
  | 'M' => some mark
  | 'N' => some number
  | 'P' => some punctuation
  | 'S' => some symbol
  | 'Z' => some separator
  | 'C' => some other
  | _ => none

end Decksmith.Text
