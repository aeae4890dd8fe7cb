import Decksmith.Query.Selection
import Decksmith.Ranking
import Decksmith.Slot.Quantity

/-! Slots: rules that score records, with the choices of how to pick among them. -/

namespace Decksmith

/-- How a slot turns scores into picks. -/
inductive SelectionPolicy where
  /-- The highest scores first. -/
  | mostPoints
  /-- At random, with a chance in proportion to the score. -/
  | randomByPointWeight
deriving DecidableEq, Repr

namespace SelectionPolicy

/-- Every policy. -/
def all : List SelectionPolicy := [mostPoints, randomByPointWeight]

/-- The spelling of a policy. -/
def spelling : SelectionPolicy → String
  | mostPoints => "most_points"
  | randomByPointWeight => "random_by_point_weight"

/-- The policy with a given spelling. -/
def ofSpelling? (spelling : String) : Option SelectionPolicy :=
  all.find? (·.spelling == spelling)

end SelectionPolicy

/-- How a slot chooses among records whose scores are tied. -/
inductive TieBreak where
  | random
  /-- The smallest value of a key first. -/
  | ascending (key : SortKey)
deriving DecidableEq, Repr

/-- A rule that scores records and picks some of them. -/
structure Slot where
  filters : List (Query × Int) := []
  rankings : List Ranking := []
  quantity : Quantity := .exactly 1
  policy : SelectionPolicy := .randomByPointWeight
  tieBreak : TieBreak := .random
  /-- Scores this close to the best are tied with it. -/
  tieThreshold : Float := 0.0
  blacklist : List CardId := []
  /-- The probability that the slot runs when its turn comes. -/
  activationChance : Float := 1.0

namespace Slot

/-- Whether the slot runs this time. A certain slot draws nothing. -/
def activates (slot : Slot) (source : Random.Source) : Bool × Random.Source :=
  -- The draw is skipped, so certain slots leave the source where it was.
  if slot.activationChance ≥ 1.0 then (true, source)
  else source.chance slot.activationChance

/-- Adds the points of a ranking to the scores of some records. -/
def addRanking (records : List Record) (scores : List Float) (ranking : Ranking) : List Float :=
  -- Records without the attribute get no points.
  let points := ranking.scores records
  List.zipWith (fun score record => score + (Ranking.lastScore? points record.id).getD 0.0)
    scores records

/-- Adds the weight of a filter to the scores of the records that it selects. -/
def addFilter (mode : CaseMode) (records : List Record) (scores : List Float)
    (filter : Query × Int) : List Float :=
  List.zipWith (fun score selected => if selected then score + Float.ofInt filter.2 else score)
    scores (filter.1.mask mode records)

/-- The scores of some records: the points of every ranking, then the weights of the filters. -/
def scores (slot : Slot) (mode : CaseMode) (records : List Record) : List Float :=
  -- Sums of floats depend on their order: rankings come first, in turn, and filters after them.
  let ranked := slot.rankings.foldl (addRanking records) (records.map fun _ => 0.0)
  slot.filters.foldl (addFilter mode records) ranked

/-- The records that are not blacklisted. -/
def eligible (slot : Slot) (records : List Record) : List Record :=
  records.filter fun record => !slot.blacklist.contains record.id

end Slot

end Decksmith
