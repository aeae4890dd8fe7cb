import Decksmith.Toml.Parse

/-! Documents: headers and assignments, line by line. -/

namespace Decksmith.Toml

/-- What a line says. -/
inductive Statement where
  /-- The assignments that follow go to this table. -/
  | header (path : List String)
  /-- The assignments that follow go to another table under this path. -/
  | repeatedHeader (path : List String)
  | assignment (path : List String) (value : Value)
deriving Repr

namespace Statement

/-- Reads a statement and the line break behind it. -/
def read? : List Char → Option (Statement × List Char)
  | '[' :: '[' :: rest => do
    let (path, rest) ← readPath? rest
    let rest ← readMark? ']' rest
    let rest ← readMark? ']' rest
    return (repeatedHeader path, ← endLine? rest)
  | '[' :: rest => do
    let (path, rest) ← readPath? rest
    let rest ← readMark? ']' rest
    return (header path, ← endLine? rest)
  | text => do
    let ((path, value), rest) ← readAssignment? (readValue? nestingLimit) text
    return (assignment path value, ← endLine? rest)

/-- Reads statements up to the end of the text, with blank lines and comments between them. -/
def readAll? : Nat → List Char → Option (List Statement)
  | turns, text =>
    match skipBlank false text, turns with
    | [], _ => some []
    | _, 0 => none
    | text, turns + 1 => do
      let (statement, rest) ← read? text
      return statement :: (← readAll? turns rest)

end Statement

/-- A document in the making, with the path that the last header has set. -/
structure Draft where
  entries : Entries
  path : List String

namespace Draft

/-- The document after one more statement. -/
def extend? (draft : Draft) : Statement → Option Draft
  | .header path => do
    let name ← path.getLast?
    return ⟨← draft.entries.within (Entries.openTable name) path.dropLast, path⟩
  | .repeatedHeader path => do
    let name ← path.getLast?
    return ⟨← draft.entries.within (Entries.openNext name) path.dropLast, path⟩
  | .assignment path value => do
    return ⟨← draft.entries.within (·.assign value path) draft.path, draft.path⟩

end Draft

/-- The text without a byte order mark at its start. -/
def withoutByteOrderMark : List Char → List Char
  | '\ufeff' :: rest => rest
  | text => text

/-- The table that a text describes, if the text is a document. -/
def parse? (text : String) : Option Value := do
  let text := withoutByteOrderMark text.toList
  -- Every statement takes a character at least, so the length of the text bounds their number.
  let statements ← Statement.readAll? text.length text
  let draft ← statements.foldlM Draft.extend? ⟨[], []⟩
  return .table (entryValues draft.entries)

end Decksmith.Toml
