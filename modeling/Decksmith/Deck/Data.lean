import Decksmith.Card.Data
import Decksmith.Deck.Basic

/-! Decks as data in JSON: the list of their entries. -/

namespace Decksmith

open Json (Value required?)

/-- Reads a card with the number of its copies. -/
def DeckEntry.ofJson? (value : Value) : Option DeckEntry := do
  let fields ← value.fields? ["card", "quantity"]
  return ⟨← required? fields "card" CardId.ofJson?, ← required? fields "quantity" Value.count?⟩

/-- A card with the number of its copies, as data. -/
def DeckEntry.toJson (entry : DeckEntry) : Value :=
  .object
    [("card", .integer entry.card.number.toNat), ("quantity", .integer entry.quantity)]

/-- Reads a deck. Repeated cards add up, and entries without copies do not count. -/
def Deck.ofJson? (value : Value) : Option Deck :=
  (value.list? DeckEntry.ofJson?).map ofEntries

/-- A deck as data. -/
def Deck.toJson (deck : Deck) : Value :=
  .array (deck.entries.map DeckEntry.toJson)

end Decksmith
