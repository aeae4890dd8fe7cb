/-! Values of the configuration format TOML. -/

namespace Decksmith.Toml

/-- A value in a document. Tables list their entries in the order in which they were made. -/
inductive Value where
  | text (text : String)
  | integer (value : Int)
  | float (value : Float)
  | boolean (value : Bool)
  /-- A date, a time or both, as written. -/
  | datetime (text : String)
  | array (items : List Value)
  | table (entries : List (String × Value))
deriving Repr

end Decksmith.Toml
