/-! Relations between a field and a literal, and between the record sets of queries. -/

namespace Decksmith

/-- An ordering of two numbers. -/
inductive OrderRelation where
  | greater
  | greaterOrEqual
  | less
  | lessOrEqual
deriving DecidableEq, Repr

/-- Whether a field's number stands in the relation to a literal's number. -/
def OrderRelation.holds (relation : OrderRelation) (field literal : Float) : Bool :=
  match relation with
  | greater => field > literal
  | greaterOrEqual => field ≥ literal
  | less => field < literal
  | lessOrEqual => field ≤ literal

/-- What a predicate asks of a field and a literal. -/
inductive Relation where
  | equal
  | notEqual
  | order (order : OrderRelation)
  | includes
  | excludes
deriving DecidableEq, Repr

/-- How a group combines the record sets of its operands. -/
inductive SetRelation where
  | union
  | intersect
deriving DecidableEq, Repr

namespace SetRelation

/-- The operator between the operands of a group. -/
def operator : SetRelation → String
  | union => "||"
  | intersect => "&&"

/-- Membership in the combination of two sets. -/
def combine : SetRelation → Bool → Bool → Bool
  | union => or
  | intersect => and

end SetRelation

end Decksmith
