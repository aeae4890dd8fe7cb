/-! Values of the data format JSON. -/

namespace Decksmith.Json

/-- A value. Integers are those of at most sixty-four bits, with or without a sign; all other numbers
are floats. -/
inductive Value where
  | null
  | boolean (value : Bool)
  | integer (value : Int)
  | float (value : Float)
  | text (text : String)
  | array (items : List Value)
  | object (entries : List (String × Value))
deriving Repr, Inhabited

end Decksmith.Json
