import Decksmith.Card.Record
import Decksmith.Pattern.Search
import Decksmith.Query.Comparison
import Decksmith.Query.Predicate

/-! Predicates made ready for testing values. -/

namespace Decksmith

/-- A predicate with its literal read as a number and as a pattern, where it is one. -/
structure Criterion where
  predicate : Predicate
  number : Option Float
  pattern : Option Pattern

namespace Criterion

/-- Whether a relation looks for a pattern. -/
def usesPattern : Relation → Bool
  | .includes | .excludes => true
  | _ => false

/-- Makes a predicate ready. Only relations that look for a pattern read their literal as one. -/
def ofPredicate (predicate : Predicate) : Criterion where
  predicate := predicate
  number := Decimal.readFinite? predicate.value
  pattern := if usesPattern predicate.relation then Pattern.compile? predicate.value else none

/-- Whether two numbers are there and stand in an order. -/
def ordered (order : OrderRelation) : Option Float → Option Float → Bool
  | some field, some literal => order.holds field literal
  | _, _ => false

/-- Whether a text passes. Without a pattern neither inclusion nor exclusion holds. -/
def acceptsText (criterion : Criterion) (mode : CaseMode) (text : String) : Bool :=
  match criterion.predicate.relation with
  | .equal => looselyEqual text criterion.predicate.value mode
  | .notEqual => !looselyEqual text criterion.predicate.value mode
  | .includes => criterion.pattern.any fun pattern => pattern.isIn text
  | .excludes => criterion.pattern.any fun pattern => !pattern.isIn text
  | .order order => ordered order (Decimal.readFinite? text) criterion.number

/-- Whether a single value passes. Of an absent value nothing holds but that it is not equal. -/
def acceptsScalar (criterion : Criterion) (mode : CaseMode) (value : FieldValue) : Bool :=
  match criterion.predicate.relation with
  | .order order => ordered order value.asNumber? criterion.number
  | relation =>
    match value.asText? with
    | some text => criterion.acceptsText mode text
    | none => relation = .notEqual

/-- Whether the items of a list pass: some item for a positive relation, every item for a negative
one, and none for an order. -/
def acceptsItems (criterion : Criterion) (mode : CaseMode) (items : List String) : Bool :=
  match criterion.predicate.relation with
  | .equal | .includes => items.any (criterion.acceptsText mode)
  | .notEqual | .excludes => items.all (criterion.acceptsText mode)
  | .order _ => false

/-- Whether a value passes. Counting applies to lists only. -/
def accepts (criterion : Criterion) (mode : CaseMode) (value : FieldValue) : Bool :=
  match value with
  | .list items =>
    if criterion.predicate.modifier = .count then
      criterion.acceptsScalar mode (.number (Float.ofNat items.length))
    else criterion.acceptsItems mode items
  | value => criterion.acceptsScalar mode value

/-- Whether a record passes. -/
def acceptsRecord (criterion : Criterion) (mode : CaseMode) (record : Record) : Bool :=
  criterion.accepts mode (record.field criterion.predicate.key)

end Criterion

end Decksmith
