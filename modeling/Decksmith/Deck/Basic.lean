import Decksmith.Card.Record
import Std.Data.ExtTreeMap

/-! Decks: how many copies of which cards, in the order in which the cards came in. -/

namespace Decksmith

/-- Cards are ordered by the numbers of their identities. -/
instance : Ord CardId := ⟨compareOn CardId.number⟩

instance : Std.TransOrd CardId := inferInstanceAs (Std.TransCmp (compareOn CardId.number))

instance : Std.LawfulEqOrd CardId where
  eq_of_compare {a b} same := by
    obtain ⟨a⟩ := a
    obtain ⟨b⟩ := b
    exact congrArg CardId.mk (Std.LawfulEqOrd.eq_of_compare (α := UInt32) same)

/-- A card and the number of its copies. -/
structure DeckEntry where
  card : CardId
  quantity : Nat
deriving DecidableEq, Repr

/-- A deck. No card has two entries, no entry is without copies, and the index tells the position of
every card among the entries. -/
structure Deck where
  entries : List DeckEntry
  index : Std.ExtTreeMap CardId Nat
deriving DecidableEq, Repr

namespace Deck

/-- The deck without cards. -/
def empty : Deck := ⟨[], ∅⟩

/-- The number of copies in the entry at a position. -/
def quantityAt (entries : List DeckEntry) (position : Nat) : Nat :=
  -- The index leads to entries only, so the zero stands in for nothing that occurs.
  (entries[position]?.map DeckEntry.quantity).getD 0

/-- The number of copies of a card, zero for a card that is not in the deck. -/
def quantity (deck : Deck) (card : CardId) : Nat :=
  (deck.index[card]?.map (quantityAt deck.entries)).getD 0

/-- Whether a card is in the deck. -/
def contains (deck : Deck) (card : CardId) : Bool :=
  deck.index.contains card

/-- Adds copies of a card, and tells how many it has from then on. A card that is new comes last. -/
def addCopies (deck : Deck) (card : CardId) (count : Nat) : Nat × Deck :=
  -- Nothing to add makes no entry.
  if count = 0 then (deck.quantity card, deck)
  else
    match deck.index[card]? with
    | some position =>
      -- A card that is in the deck keeps its place.
      let grown := deck.entries.modify position fun entry =>
        { entry with quantity := entry.quantity + count }
      (quantityAt grown position, { deck with entries := grown })
    | none =>
      (count, ⟨deck.entries ++ [⟨card, count⟩], deck.index.insert card deck.entries.length⟩)

/-- The deck of some entries, with an index made anew. -/
def indexing (entries : List DeckEntry) : Deck :=
  ⟨entries, .ofList (entries.map DeckEntry.card).zipIdx⟩

/-- Removes copies of a card, as far as there are any, and tells how many. Without copies an entry
goes. -/
def removeCopies (deck : Deck) (card : CardId) (count : Nat) : Nat × Deck :=
  match deck.index[card]? with
  | none => (0, deck)
  | some position =>
    let removed := min count (quantityAt deck.entries position)
    let lowered := deck.entries.modify position fun entry =>
      { entry with quantity := entry.quantity - removed }
    -- The entries behind one that goes move up, so every position is found again.
    if quantityAt lowered position = 0 then (removed, indexing (lowered.eraseIdx position))
    else (removed, { deck with entries := lowered })

/-- Removes the copies of a card beyond a limit, and tells how many. -/
def capCopies (deck : Deck) (card : CardId) (limit : Nat) : Nat × Deck :=
  -- Nothing is in excess of a limit that is not reached.
  deck.removeCopies card (deck.quantity card - limit)

/-- The deck with more copies of a card. -/
def add (deck : Deck) (card : CardId) (count : Nat) : Deck :=
  (deck.addCopies card count).2

/-- The deck with fewer copies of a card, as far as there are any. -/
def remove (deck : Deck) (card : CardId) (count : Nat) : Deck :=
  (deck.removeCopies card count).2

/-- How many copies a removal takes. -/
def removable (deck : Deck) (card : CardId) (count : Nat) : Nat :=
  (deck.removeCopies card count).1

/-- The deck with no more copies of a card than a limit. -/
def cap (deck : Deck) (card : CardId) (limit : Nat) : Deck :=
  (deck.capCopies card limit).2

/-- How many copies a limit takes from a card. -/
def excess (deck : Deck) (card : CardId) (limit : Nat) : Nat :=
  (deck.capCopies card limit).1

/-- The number of all copies. -/
def total (deck : Deck) : Nat :=
  deck.entries.foldr (fun entry total => entry.quantity + total) 0

/-- The number of different cards. -/
def size (deck : Deck) : Nat :=
  deck.entries.length

/-- Whether there is no card. -/
def isEmpty (deck : Deck) : Bool :=
  deck.entries.isEmpty

/-- The card of every copy, entry by entry. -/
def flatten (deck : Deck) : List CardId :=
  deck.entries.flatMap fun entry => List.replicate entry.quantity entry.card

/-- The deck that a list of entries adds up to. -/
def ofEntries (entries : List DeckEntry) : Deck :=
  entries.foldl (fun deck entry => deck.add entry.card entry.quantity) empty

end Deck

end Decksmith
