import Decksmith.Card.Attribute
import Decksmith.Text.Blank

/-! Mana costs, read symbol by symbol. -/

namespace Decksmith.Mana

/-- How many suffixes of a text start with a symbol. A mana symbol cannot overlap itself, so this is
the number of its occurrences. -/
def occurrences (symbol : List Char) : List Char → Nat
  | [] => 0
  | c :: rest => (if symbol.isPrefixOf (c :: rest) then 1 else 0) + occurrences symbol rest

/-- How often a color's symbol stands in a cost. -/
def symbolCount (cost : String) (color : Color) : Nat :=
  occurrences color.symbol.toList cost.toList

/-- The text in front of the first closing brace. -/
def beforeClosing? (text : List Char) : Option (List Char) :=
  if text.contains '}' then some (text.takeWhile (· ≠ '}')) else none

/-- The first symbol that is a plain number. The text between two opening braces holds at most one
symbol, which a closing brace ends. -/
def generic? (cost : String) : Option String :=
  let symbols := (Text.pieces '{' cost.toList).filterMap beforeClosing?
  (symbols.find? fun symbol => symbol ≠ [] ∧ symbol.all Char.isDigit).map String.ofList

end Decksmith.Mana
