import Decksmith.Json.Value

/-! Taking values apart: typed values and records. -/

namespace Decksmith.Json.Value

/-- A text. -/
def text? : Value → Option String
  | text s => some s
  | _ => none

/-- A truth value. -/
def boolean? : Value → Option Bool
  | boolean b => some b
  | _ => none

/-- An integer of sixty-four bits with a sign. -/
def integer? : Value → Option Int
  | integer n => if n ≤ Int64.maxValue.toInt then some n else none
  | _ => none

/-- A natural number up to a limit. -/
def natural? (limit : Nat) : Value → Option Nat
  | integer n => if 0 ≤ n ∧ n ≤ limit then some n.toNat else none
  | _ => none

/-- A natural number of thirty-two bits. -/
def word? (value : Value) : Option UInt32 :=
  (value.natural? (UInt32.size - 1)).map UInt32.ofNat

/-- A natural number of sixty-four bits. -/
def count? (value : Value) : Option Nat :=
  value.natural? (UInt64.size - 1)

/-- A number. -/
def number? : Value → Option Float
  | float x => some x
  | integer n => some (Float.ofInt n)
  | _ => none

/-- A list whose items are all read in one way. -/
def list? (item? : Value → Option α) : Value → Option (List α)
  | array items => items.mapM item?
  | _ => none

/-- What may be null. -/
def orNull? (read? : Value → Option α) : Value → Option (Option α)
  | null => some none
  | value => (read? value).map some

/-- A choice that is known by its name: a text, or an object that holds null under the name. -/
def named? (ofSpelling? : String → Option α) : Value → Option α
  | text name => ofSpelling? name
  | object [(name, null)] => ofSpelling? name
  | _ => none

/-- The fields of a record: by name from an object, or in their order from an array that is not too
long. -/
def fields? (names : List String) : Value → Option (List (String × Value))
  | object entries => some entries
  | array items => if items.length ≤ names.length then some (names.zip items) else none
  | _ => none

/-- The last entry of an object under a name. -/
def get? (value : Value) (name : String) : Option Value :=
  match value with
  | object entries => entries.reverse.lookup name
  | _ => none

end Decksmith.Json.Value

namespace Decksmith.Json

/-- A field that has to be there; of a repeated one the last counts. -/
def required? (fields : List (String × Value)) (name : String) (read? : Value → Option α) :
    Option α :=
  match fields.reverse.lookup name with
  | some value => read? value
  | none => none

/-- A field that takes a default where it is not there. -/
def optional? (fields : List (String × Value)) (name : String) (read? : Value → Option α)
    (default : α) : Option α :=
  match fields.reverse.lookup name with
  | some value => read? value
  | none => some default

end Decksmith.Json
