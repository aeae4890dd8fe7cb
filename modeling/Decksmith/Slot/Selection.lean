import Decksmith.Decimal.Binary
import Decksmith.Slot.Basic

/-! Picking records: by the most points, or at random by point weight. -/

namespace Decksmith

/-- A record with its score. -/
structure Candidate where
  record : Record
  score : Float

namespace Candidate

/-- The candidates from the highest score to the lowest; equal scores keep their order. -/
def sorted (candidates : List Candidate) : List Candidate :=
  -- A merge sort is stable, and the total order leaves no score out.
  candidates.mergeSort fun a b => Decimal.totalLe b.score a.score

/-- What a tie is broken by. A value that is no number comes last. -/
def tieValue (key : SortKey) (candidate : Candidate) : Float :=
  (candidate.record.sortField key).asNumber?.getD (1.0 / 0.0)

/-- The index of the first least number, given the best index so far and what is to come. -/
def leastIndexFrom (best : Nat) (least : Float) (index : Nat) : List Float → Nat
  | [] => best
  | value :: others =>
    -- An equal value further on does not replace the first one.
    if Decimal.totalLe least value then leastIndexFrom best least (index + 1) others
    else leastIndexFrom index value (index + 1) others

/-- The index of the first least number in the total order, zero if there is none. -/
def leastIndex : List Float → Nat
  | [] => 0
  | first :: others => leastIndexFrom 0 first 1 others

/-- The weight of a candidate in a random choice: negative scores and NaN weigh nothing. -/
def weight (candidate : Candidate) : Float :=
  -- A NaN is not greater than zero.
  if candidate.score > 0.0 then candidate.score else 0.0

end Candidate

namespace Slot

/-- The candidates at the front whose score is within the threshold of the best one. -/
def tied (slot : Slot) (best : Candidate) (order : List Candidate) : List Candidate :=
  -- The order is descending, so the tied candidates stand together at the front.
  order.takeWhile fun candidate => candidate.score ≥ best.score - slot.tieThreshold

/-- The index of the candidate that a tie goes to. -/
def breakTie (slot : Slot) (tied : List Candidate) (source : Random.Source) :
    Nat × Random.Source :=
  match slot.tieBreak with
  | .random =>
    let drawn := source.position? tied.length
    (drawn.1.getD 0, drawn.2)
  | .ascending key => (Candidate.leastIndex (tied.map (Candidate.tieValue key)), source)

/-- Picks candidates one by one from the tied ones at the front. -/
def pickTied (slot : Slot) : Nat → List Candidate → Random.Source →
    List Candidate × Random.Source
  | 0, _, source => ([], source)
  | _ + 1, [], source => ([], source)
  | count + 1, best :: others, source =>
    -- The tie is broken anew for every pick, because the best score changes.
    let order := best :: others
    let chosen := slot.breakTie (slot.tied best order) source
    let picked := slot.pickTied count (order.eraseIdx chosen.1) chosen.2
    ((order[chosen.1]?.getD best) :: picked.1, picked.2)

/-- Picks the candidates with the most points. Without a tie threshold the order alone decides. -/
def pickMost (slot : Slot) (candidates : List Candidate) (count : Nat) (source : Random.Source) :
    List Candidate × Random.Source :=
  let order := Candidate.sorted candidates
  if slot.tieThreshold ≤ 0.0 then (order.take count, source)
  else slot.pickTied count order source

/-- Picks by weight without replacement: a picked candidate weighs nothing from then on. -/
def pickWeighted (candidates : List Candidate) : Nat → List Float → Random.Source →
    List Candidate × Random.Source
  | 0, _, source => ([], source)
  | count + 1, weights, source =>
    match source.weighted? weights with
    | (none, source) => ([], source)
    | (some index, source) =>
      let picked := pickWeighted candidates count (weights.set index 0.0) source
      (candidates[index]?.toList ++ picked.1, picked.2)

/-- Picks candidates at random by their points, after a shuffle. Some candidate needs a positive
score. -/
def pickRandom (candidates : List Candidate) (count : Nat) (source : Random.Source) :
    Except SelectionError (List Candidate) × Random.Source :=
  -- The shuffle draws before the weights are looked at, also when none is positive.
  let shuffled := source.shuffle candidates
  let weights := shuffled.1.map Candidate.weight
  if weights.any (· > 0.0) then
    let picked := pickWeighted shuffled.1 count weights shuffled.2
    (.ok picked.1, picked.2)
  else
    let total := (candidates.map Candidate.score).foldl (· + ·) 0.0
    (.error (.nonPositiveWeightTotal total), shuffled.2)

/-- Picks so many records, whatever the slot's own quantity. -/
def selectCount (slot : Slot) (mode : CaseMode) (records : List Record) (count : Nat)
    (source : Random.Source) : Except SelectionError (List Record) × Random.Source :=
  -- Scores are relative to the pool, so the blacklist is applied first.
  let pool := slot.eligible records
  if pool.isEmpty || count = 0 then (.ok [], source)
  else
    let candidates := List.zipWith Candidate.mk pool (slot.scores mode pool)
    match slot.policy with
    | .mostPoints =>
      let picked := slot.pickMost candidates count source
      (.ok (picked.1.map Candidate.record), picked.2)
    | .randomByPointWeight =>
      let picked := pickRandom candidates count source
      (picked.1.map (·.map Candidate.record), picked.2)

/-- Draws the slot's quantity and picks so many records. -/
def select (slot : Slot) (mode : CaseMode) (records : List Record) (deckSize : Option Nat)
    (source : Random.Source) : Except SelectionError (List Record) × Random.Source :=
  match slot.quantity.resolve deckSize source with
  | (.error fault, source) => (.error fault, source)
  | (.ok count, source) => slot.selectCount mode records count source

end Slot

end Decksmith
