import Decksmith.Card.Record

/-! Rankings: a pool of points shared out by one numeric attribute. -/

namespace Decksmith

/-- Which end of a ranking is worth the most points. -/
inductive Direction where
  | least
  | most
deriving DecidableEq, Repr

namespace Direction

/-- Both directions. -/
def all : List Direction := [least, most]

/-- The spelling of a direction. -/
def spelling : Direction → String
  | least => "least"
  | most => "most"

/-- The direction with a given spelling. -/
def ofSpelling? (spelling : String) : Option Direction :=
  all.find? (·.spelling == spelling)

end Direction

/-- An attribute, the end that is worth most, and the points for that end. -/
structure Ranking where
  key : SortKey
  direction : Direction := .most
  pool : Float
deriving Repr

namespace Ranking

/-- The records whose attribute is a finite number, with that number. -/
def values (ranking : Ranking) (records : List Record) : List (CardId × Float) :=
  records.filterMap fun record =>
    (record.sortField ranking.key).asNumber?.map fun value => (record.id, value)

/-- The larger of two finite numbers. -/
def larger (a b : Float) : Float :=
  if a < b then b else a

/-- The largest of some finite numbers. -/
def largest? : List Float → Option Float
  | [] => none
  | first :: others => some (others.foldl larger first)

/-- The points for a value, given the largest value of all. -/
def points (ranking : Ranking) (value largest : Float) : Float :=
  -- A largest value of zero would divide by zero.
  if largest == 0.0 then 0.0
  else
    match ranking.direction with
    | .most => ranking.pool * value / largest
    | .least => ranking.pool * (largest - value) / largest

/-- The points of all records that have the attribute, in their order. -/
def scores (ranking : Ranking) (records : List Record) : List (CardId × Float) :=
  -- Without any value there is no largest one, and then nobody scores.
  let values := ranking.values records
  match largest? (values.map Prod.snd) with
  | none => []
  | some largest => values.map fun entry => (entry.1, ranking.points entry.2 largest)

/-- The last score that was given to an identity. -/
def lastScore? (scores : List (CardId × Float)) (id : CardId) : Option Float :=
  -- Repeated identities overwrite one another, so the search starts at the end.
  (scores.reverse.find? fun entry => entry.1 == id).map Prod.snd

end Ranking

end Decksmith
