import Decksmith.Decimal.Numeral
import Decksmith.Decimal.Positional

/-! Values that a record's fields resolve to. -/

namespace Decksmith

/-- The value of one field of a record. -/
inductive FieldValue where
  | text (text : String)
  | number (value : Float)
  | flag (value : Bool)
  | list (items : List String)
  | absent
deriving Repr

namespace FieldValue

/-- A text that may be missing. -/
def ofText? : Option String → FieldValue
  | some s => text s
  | none => absent

/-- A number that may be missing. -/
def ofNumber? : Option Float → FieldValue
  | some x => number x
  | none => absent

/-- The text that equality and patterns look at. The items of a list are joined by spaces. -/
def asText? : FieldValue → Option String
  | text s => some s
  | number x => some (Decimal.write x)
  | flag value => some (if value then "true" else "false")
  | list items => some (" ".intercalate items)
  | absent => none

/-- The finite number that a value holds or spells. -/
def asNumber? : FieldValue → Option Float
  | text s => Decimal.readFinite? s
  | number x => if x.isFinite then some x else none
  | _ => none

/-- The items of a list. -/
def asList? : FieldValue → Option (List String)
  | list items => some items
  | _ => none

/-- Whether there is no value at all. -/
def isAbsent : FieldValue → Bool
  | absent => true
  | _ => false

end FieldValue

end Decksmith
