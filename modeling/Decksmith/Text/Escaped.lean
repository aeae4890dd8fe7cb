/-! Quoted text with escapes: read piece by piece up to what closes it. -/

namespace Decksmith.Text

/-- The value of a hexadecimal digit. -/
def hexDigit? (c : Char) : Option Nat :=
  if '0' ≤ c ∧ c ≤ '9' then some (c.toNat - 48)
  else if 'a' ≤ c ∧ c ≤ 'f' then some (c.toNat - 87)
  else if 'A' ≤ c ∧ c ≤ 'F' then some (c.toNat - 55)
  else none

/-- The character with a given code, if there is one. -/
def charOfCode? (code : Nat) : Option Char :=
  if code.isValidChar then some (Char.ofNat code) else none

/-- Reads a code that is written as a fixed number of hexadecimal digits. -/
def readCode? (count : Nat) (text : List Char) : Option (Nat × List Char) := do
  let digits ← (text.take count).mapM hexDigit?
  guard (digits.length = count)
  return (digits.foldl (fun code digit => 16 * code + digit) 0, text.drop count)

/-- Reads one piece of a quoted text: what it means, and the text behind it. -/
abbrev PieceReader := List Char → Option (List Char × List Char)

/-- Reads as many pieces as there are, up to a number of turns. -/
def readPieces (piece? : PieceReader) : Nat → List Char → List Char × List Char
  | 0, text => ([], text)
  | turns + 1, text =>
    match piece? text with
    | none => ([], text)
    | some (meaning, rest) =>
      let others := readPieces piece? turns rest
      (meaning ++ others.1, others.2)

/-- Reads the pieces of a quoted text and what closes it. Every piece takes a character at least, so
the length of the text is as many turns as are needed. -/
def readClosed? (piece? : PieceReader) (turns : Nat) (closing text : List Char) :
    Option (String × List Char) :=
  let read := readPieces piece? turns text
  if closing.isPrefixOf read.2 then
    some (String.ofList read.1, read.2.drop closing.length)
  else none

end Decksmith.Text
