import Decksmith.Query.Comparison

/-! Settings of an assembly: its size, the order of its slots and its limits. -/

namespace Decksmith

/-- The order in which an assembly visits its slots. -/
inductive IterationPolicy where
  /-- Over and over from the first to the last. -/
  | sequentialLoopEnd
  /-- Once from the first to the last, and from then on the remainder slot. -/
  | sequentialFillRemaining
  /-- Any slot at any time. -/
  | random
deriving DecidableEq, Repr

namespace IterationPolicy

/-- Every policy. -/
def all : List IterationPolicy := [sequentialLoopEnd, sequentialFillRemaining, random]

/-- The spelling of a policy. -/
def spelling : IterationPolicy → String
  | sequentialLoopEnd => "sequential_loop_end"
  | sequentialFillRemaining => "sequential_fill_remaining"
  | random => "random"

/-- The policy with a given spelling. -/
def ofSpelling? (spelling : String) : Option IterationPolicy :=
  all.find? (·.spelling == spelling)

end IterationPolicy

/-- The settings of an assembly. -/
structure Settings where
  minTotal : Nat := 60
  maxTotal : Nat := 60
  iterationPolicy : IterationPolicy := .sequentialLoopEnd
  /-- The most copies of one card; zero sets no limit. -/
  copyThreshold : Nat := 4
  /-- The share of the copies beyond the smallest size that a trim may remove. -/
  trimFraction : Float := 0.0
  /-- How many visits in a row may add nothing. -/
  maxIterations : Nat := 10000
  seed : UInt64 := 42
  strictCase : Bool := false
deriving Repr

/-- How the queries of an assembly compare texts. -/
def Settings.caseMode (settings : Settings) : CaseMode :=
  .ofStrict settings.strictCase

end Decksmith
