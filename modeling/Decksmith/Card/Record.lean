import Decksmith.Card.Key
import Decksmith.Card.Value

/-! Records: whatever resolves field keys and sort keys to values. -/

namespace Decksmith

/-- The identity of a card. Decks, blacklists and copy limits go by it. -/
structure CardId where
  number : UInt32
deriving DecidableEq, Repr

/-- Something that can be queried, ranked and put into decks. -/
structure Record where
  id : CardId
  field : FieldKey → FieldValue
  sortField : SortKey → FieldValue

/-- The last record with a given identity. -/
def Record.lastWithId? (records : List Record) (id : CardId) : Option Record :=
  records.reverse.find? (·.id == id)

end Decksmith
