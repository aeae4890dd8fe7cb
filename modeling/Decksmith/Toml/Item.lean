import Decksmith.Toml.Value

/-! Tables in the making. A table can grow in some ways and not in others, by how it came about. -/

namespace Decksmith.Toml

/-- How a table came about. -/
inductive Origin where
  /-- By a header of its own. -/
  | header
  /-- As a part of another table's header. -/
  | path
  /-- As a part of the path of a value. -/
  | dotted
deriving DecidableEq, Repr

/-- What stands under a name while a document is read. Of the tables under one repeated header only the
last one can still grow. -/
inductive Item where
  | value (value : Value)
  | table (origin : Origin) (entries : List (String × Item))
  | series (earlier : List Value) (last : List (String × Item))
deriving Repr

/-- The entries of a table in the making. -/
abbrev Entries := List (String × Item)

mutual

/-- The value that an item has become. -/
def Item.toValue : Item → Value
  | .value v => v
  | .table _ entries => .table (entryValues entries)
  | .series earlier last => .array (earlier ++ [.table (entryValues last)])

/-- The entries of a finished table. -/
def entryValues : List (String × Item) → List (String × Value)
  | [] => []
  | (name, item) :: others => (name, item.toValue) :: entryValues others

end

namespace Entries

/-- What stands under a name. -/
def find? (entries : Entries) (name : String) : Option Item :=
  (List.find? (fun entry => entry.1 == name) entries).map Prod.snd

/-- The entries with another item under a name, at the end if the name is new. -/
def put (name : String) (item : Item) : Entries → Entries
  | [] => [(name, item)]
  | entry :: others =>
    if entry.1 = name then (name, item) :: others else entry :: put name item others

/-- Gives a value a path. The path must not lead through a table with a header of its own, and must
not end in a table that no such path has made, nor at a name that is taken. -/
def assign (entries : Entries) (value : Value) : List String → Option Entries
  | [] => none
  | [name] =>
    match entries.find? name with
    | none => some (entries.put name (.value value))
    | some _ => none
  | name :: next :: path =>
    match entries.find? name with
    | none => do
      let inner ← assign [] value (next :: path)
      return entries.put name (.table .dotted inner)
    -- The last table on the way has to be one that a path of this kind has made.
    | some (.table origin inner) => do
      guard (origin ≠ .header ∧ (path ≠ [] ∨ origin = .dotted))
      let inner ← assign inner value (next :: path)
      return entries.put name (.table origin inner)
    | some (.series earlier last) => do
      guard (path ≠ [])
      let last ← assign last value (next :: path)
      return entries.put name (.series earlier last)
    | some (.value _) => none

/-- Changes the table at the end of a header's path. Tables on the way are made as needed, and of a
repeated header's tables the last one counts. -/
def within (change : Entries → Option Entries) (entries : Entries) :
    List String → Option Entries
  | [] => change entries
  | name :: path =>
    match entries.find? name with
    | none => do
      let inner ← within change [] path
      return entries.put name (.table .path inner)
    | some (.table origin inner) => do
      let inner ← within change inner path
      return entries.put name (.table origin inner)
    | some (.series earlier last) => do
      let last ← within change last path
      return entries.put name (.series earlier last)
    | some (.value _) => none

/-- Opens the table of a header. Only a table that was made for another header's path may be there
already. -/
def openTable (name : String) (entries : Entries) : Option Entries :=
  match entries.find? name with
  | none => some (entries.put name (.table .header []))
  | some (.table .path inner) => some (entries.put name (.table .header inner))
  | some _ => none

/-- Opens another table under a repeated header. -/
def openNext (name : String) (entries : Entries) : Option Entries :=
  match entries.find? name with
  | none => some (entries.put name (.series [] []))
  | some (.series earlier last) =>
    some (entries.put name (.series (earlier ++ [.table (entryValues last)]) []))
  | some _ => none

end Entries

end Decksmith.Toml
