import Decksmith.Toml.Value

/-! Taking values apart: typed values, records and choices. -/

namespace Decksmith.Toml.Value

/-- A text. -/
def text? : Value → Option String
  | text s => some s
  | _ => none

/-- A truth value. -/
def boolean? : Value → Option Bool
  | boolean b => some b
  | _ => none

/-- An integer. -/
def integer? : Value → Option Int
  | integer n => some n
  | _ => none

/-- A natural number up to a limit. -/
def natural? (limit : Nat) : Value → Option Nat
  | integer n => if 0 ≤ n ∧ n ≤ limit then some n.toNat else none
  | _ => none

/-- A floating-point number, for which an integer will do. -/
def number? : Value → Option Float
  | float x => some x
  | integer n => some (Float.ofInt n)
  | _ => none

/-- A list whose items are all read in one way. -/
def list? (item? : Value → Option α) : Value → Option (List α)
  | array items => items.mapM item?
  | _ => none

/-- The fields of a record: by name from a table, or in their order from an array. A date is a record
of other fields. -/
def fields? (names : List String) : Value → Option (List (String × Value))
  | table entries => some entries
  | array items => some (names.zip items)
  | datetime _ => some []
  | _ => none

/-- The fields of a record that must not have others. -/
def exactFields? (names : List String) (value : Value) : Option (List (String × Value)) :=
  (value.fields? names).filter fun fields => fields.all fun field => names.contains field.1

/-- The name of a choice with what it holds: a text that names it, or a table with one entry. -/
def choice? : Value → Option (String × Option Value)
  | text name => some (name, none)
  | table [(name, held)] => some (name, some held)
  | _ => none

/-- Whether a value holds nothing. -/
def isHollow : Value → Bool
  | table entries => entries.isEmpty
  | array items => items.isEmpty
  | _ => false

/-- A choice that is known by its name and holds nothing. -/
def named? (ofSpelling? : String → Option α) (value : Value) : Option α :=
  match value.choice? with
  | some (name, held) => if held.all isHollow then ofSpelling? name else none
  | none => none

end Decksmith.Toml.Value

namespace Decksmith.Toml

/-- A field that has to be there. -/
def required? (fields : List (String × Value)) (name : String) (read? : Value → Option α) :
    Option α :=
  match fields.lookup name with
  | some value => read? value
  | none => none

/-- A field that takes a default where it is not there. -/
def optional? (fields : List (String × Value)) (name : String) (read? : Value → Option α)
    (default : α) : Option α :=
  match fields.lookup name with
  | some value => read? value
  | none => some default

end Decksmith.Toml
