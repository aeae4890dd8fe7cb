import Decksmith.Toml.Datetime
import Decksmith.Toml.Item
import Decksmith.Toml.Key
import Decksmith.Toml.Number

/-! Reading values: strings, numbers, dates, arrays and tables in braces. -/

namespace Decksmith.Toml

/-- Reads a value: what it is, and the text behind it. -/
abbrev ValueReader := List Char → Option (Value × List Char)

/-- Reads the items of an array behind its opening bracket. Every item takes a character at least, so
the length of the text is as many turns as are needed. -/
def readItems? (item? : ValueReader) : Nat → List Char → Option (List Value × List Char)
  | 0, _ => none
  | turns + 1, text =>
    match skipBlank false text with
    | ']' :: rest => some ([], rest)
    | text => do
      let (item, rest) ← item? text
      match skipBlank false rest with
      | ']' :: rest => return ([item], rest)
      | ',' :: rest =>
        let (others, rest) ← readItems? item? turns rest
        return (item :: others, rest)
      | _ => none

/-- Reads a path, an equals sign and a value. -/
def readAssignment? (item? : ValueReader) (text : List Char) :
    Option ((List String × Value) × List Char) := do
  let (path, rest) ← readPath? text
  let rest ← readMark? '=' rest
  let (value, rest) ← item? (skipSpaces rest)
  return ((path, value), rest)

/-- Reads the entries of a table in braces. No comma stands behind the last one. -/
def readEntries? (item? : ValueReader) : Nat → Entries → List Char →
    Option (Entries × List Char)
  | 0, _, _ => none
  | turns + 1, entries, text => do
    let ((path, value), rest) ← readAssignment? item? text
    let entries ← entries.assign value path
    match skipSpaces rest with
    | '\x7d' :: rest => return (entries, rest)
    | ',' :: rest => readEntries? item? turns entries rest
    | _ => none

/-- Reads a table in braces behind its opening brace. -/
def readTable? (item? : ValueReader) (text : List Char) : Option (Entries × List Char) :=
  match skipSpaces text with
  | '\x7d' :: rest => some ([], rest)
  | text => readEntries? item? text.length [] text

/-- Reads a value that is neither an array nor a table. -/
def readScalar? : ValueReader
  | '"' :: rest => (readString? '"' rest).map fun read => (.text read.1, read.2)
  | '\'' :: rest => (readString? '\'' rest).map fun read => (.text read.1, read.2)
  | 't' :: 'r' :: 'u' :: 'e' :: rest => some (.boolean true, rest)
  | 'f' :: 'a' :: 'l' :: 's' :: 'e' :: rest => some (.boolean false, rest)
  | text => readDatetime? text <|> readNumber? text

/-- Reads a value with arrays and tables nested no deeper than a limit. -/
def readValue? : Nat → ValueReader
  | 0, text => readScalar? text
  | limit + 1, text =>
    match text with
    | '[' :: rest => do
      let (items, rest) ← readItems? (readValue? limit) rest.length rest
      return (.array items, rest)
    | '\x7b' :: rest => do
      let (entries, rest) ← readTable? (readValue? limit) rest
      return (.table (entryValues entries), rest)
    | text => readScalar? text

end Decksmith.Toml
