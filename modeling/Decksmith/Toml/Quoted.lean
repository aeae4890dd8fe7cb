import Decksmith.Text.Escaped
import Decksmith.Toml.Layout

/-! Strings: in double or single quotes, on one line or on several. -/

namespace Decksmith.Toml

open Text (PieceReader)

/-- Reads a character that is written as a fixed number of hexadecimal digits. -/
def readChar? (count : Nat) (text : List Char) : Option (Char × List Char) := do
  let (code, rest) ← Text.readCode? count text
  return (← Text.charOfCode? code, rest)

/-- Reads what stands behind a backslash. -/
def readEscape? : List Char → Option (Char × List Char)
  | 'b' :: rest => some ('\x08', rest)
  | 't' :: rest => some ('\t', rest)
  | 'n' :: rest => some ('\n', rest)
  | 'f' :: rest => some ('\x0c', rest)
  | 'r' :: rest => some ('\r', rest)
  | '"' :: rest => some ('"', rest)
  | '\\' :: rest => some ('\\', rest)
  | 'u' :: rest => readChar? 4 rest
  | 'U' :: rest => readChar? 8 rest
  | _ => none

/-- Reads an escaped character. -/
def escapedPiece? : PieceReader
  | '\\' :: rest => (readEscape? rest).map fun read => ([read.1], read.2)
  | _ => none

/-- Reads a character that stands for itself in a string with a given quote. -/
def plainPiece? (quote : Char) : PieceReader
  | c :: rest => if c ≠ quote ∧ isPrintable c then some ([c], rest) else none
  | [] => none

/-- Reads a line break, which means a line feed however it is written. -/
def breakPiece? (text : List Char) : Option (List Char × List Char) :=
  (lineBreak? text).map fun rest => (['\n'], rest)

/-- Reads a backslash at the end of a line. It means nothing, together with all spaces and line breaks
behind it. -/
def foldPiece? : PieceReader
  | '\\' :: rest => (lineBreak? (skipSpaces rest)).map fun rest => ([], skipLines rest)
  | _ => none

/-- Reads a quote inside a string that three quotes end. Up to two quotes may stand alone, or directly
in front of the three that end the string. -/
def quotePiece? (quote : Char) : PieceReader
  | c :: rest =>
    -- Three quotes end the string, and one or two more may stand in front of them.
    let run := (c :: rest).takeWhile (· = quote)
    if c = quote ∧ run.length ∈ [1, 2, 4, 5] then some ([c], rest) else none
  | [] => none

/-- Reads one character of a string on one line. -/
def linePiece? (quote : Char) (text : List Char) : Option (List Char × List Char) :=
  if quote = '"' ∧ text.head? = some '\\' then escapedPiece? text
  else plainPiece? quote text

/-- Reads one character of a string on several lines. -/
def blockPiece? (quote : Char) (text : List Char) : Option (List Char × List Char) :=
  if quote = '"' ∧ text.head? = some '\\' then foldPiece? text <|> escapedPiece? text
  else plainPiece? quote text <|> breakPiece? text <|> quotePiece? quote text

/-- Reads a string on one line behind its opening quote. -/
def readLineString? (quote : Char) (text : List Char) : Option (String × List Char) :=
  Text.readClosed? (linePiece? quote) text.length [quote] text

/-- Reads a string on several lines behind its opening quotes. A line break at its start does not
count. -/
def readBlockString? (quote : Char) (text : List Char) : Option (String × List Char) :=
  Text.readClosed? (blockPiece? quote) text.length [quote, quote, quote]
    ((lineBreak? text).getD text)

/-- Reads a string behind its first quote. -/
def readString? (quote : Char) : List Char → Option (String × List Char)
  | a :: b :: rest =>
    if a = quote ∧ b = quote then readBlockString? quote rest
    else readLineString? quote (a :: b :: rest)
  | text => readLineString? quote text

end Decksmith.Toml
