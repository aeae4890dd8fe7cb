import Decksmith.Text.Blank

/-! Type lines: the words around the first dash. -/

namespace Decksmith.TypeLine

/-- The em dash that ends the types and starts the subtypes. -/
def dash : Char := '—'

/-- The text in front of the first dash. -/
def head (line : List Char) : List Char :=
  line.takeWhile (· ≠ dash)

/-- The text between the first dash and the second, which ends it. -/
def tail (line : List Char) : List Char :=
  ((line.dropWhile (· ≠ dash)).drop 1).takeWhile (· ≠ dash)

/-- The words in front of the first dash. -/
def types (line : String) : List String :=
  (Text.words (head line.toList)).map String.ofList

/-- The words between the first dash and the second. -/
def subtypes (line : String) : List String :=
  (Text.words (tail line.toList)).map String.ofList

end Decksmith.TypeLine
