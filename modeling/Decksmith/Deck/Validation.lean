import Decksmith.Deck.Basic
import Decksmith.Query.Selection

/-! Checking the cards of a deck against rules. -/

namespace Decksmith

/-- A card that fails, with the index of the first rule that it fails. Without an index the card is
not among the records. -/
structure ValidationFailure where
  card : CardId
  rule : Option Nat
deriving DecidableEq, Repr

/-- The failure of one card. -/
def failure? (mode : CaseMode) (records : List Record) (rules : List Query) (card : CardId) :
    Option ValidationFailure :=
  -- A card that no record describes cannot be checked.
  match Record.lastWithId? records card with
  | none => some ⟨card, none⟩
  | some record =>
    (rules.findIdx? fun rule => !rule.holds mode record).map fun rule => ⟨card, some rule⟩

/-- The failures of a deck, in the order of its cards. -/
def Deck.validate (deck : Deck) (mode : CaseMode) (records : List Record) (rules : List Query) :
    List ValidationFailure :=
  deck.entries.filterMap fun entry => failure? mode records rules entry.card

end Decksmith
