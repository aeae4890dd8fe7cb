import Decksmith.Query.Predicate

/-! Queries: predicates grouped by union and intersection. -/

namespace Decksmith

/-- A query. A group without operands arises only by construction, never from text. -/
inductive Query where
  | test (predicate : Predicate)
  | group (relation : SetRelation) (operands : List Query)
deriving Repr

namespace Query

/-- The group of some operands; a single operand stands for itself. -/
def ofOperands (relation : SetRelation) : List Query → Query
  | [query] => query
  | operands => group relation operands

mutual

/-- Whether two queries have the same shape and the same predicates. -/
def same : Query → Query → Bool
  | test p, test q => p == q
  | group r ps, group s qs => r == s && sameAll ps qs
  | _, _ => false

/-- Whether two lists of queries agree item by item. -/
def sameAll : List Query → List Query → Bool
  | [], [] => true
  | p :: ps, q :: qs => same p q && sameAll ps qs
  | _, _ => false

end

mutual

/-- The canonical text of a query: every operand of a group stands in brackets. -/
def render : Query → String
  | test p => p.render
  | group _ [] => ""
  | group relation (first :: others) =>
    "[" ++ render first ++ "]" ++ renderRest relation others

/-- The operands behind the first one, each after its operator. -/
def renderRest (relation : SetRelation) : List Query → String
  | [] => ""
  | operand :: others =>
    " " ++ relation.operator ++ " [" ++ render operand ++ "]" ++ renderRest relation others

end

mutual

/-- The predicates of a query from left to right. -/
def predicates : Query → List Predicate
  | test p => [p]
  | group _ operands => predicatesOf operands

/-- The predicates of some queries from left to right. -/
def predicatesOf : List Query → List Predicate
  | [] => []
  | query :: others => predicates query ++ predicatesOf others

end

end Query

end Decksmith
