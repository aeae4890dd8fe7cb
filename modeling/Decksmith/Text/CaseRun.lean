/-! Case mappings written as runs of code points with one common shift. -/

namespace Decksmith.Text

/-- The code points `first`, `first + stride`, … up to `last`, each mapped to itself plus `shift`. -/
structure CaseRun where
  first : Nat
  last : Nat
  stride : Nat
  shift : Int
deriving Repr

/-- Whether a run maps a code point. -/
def CaseRun.maps (run : CaseRun) (code : Nat) : Bool :=
  run.first ≤ code && code ≤ run.last && (code - run.first) % run.stride == 0

/-- The character that a run maps a code point of its own to. -/
def CaseRun.image (run : CaseRun) (code : Nat) : Char :=
  Char.ofNat (code + run.shift).toNat

/-- The character that a run maps to a code point, if there is one. -/
def CaseRun.preimage? (run : CaseRun) (code : Nat) : Option Char :=
  let source := (code - run.shift).toNat
  if run.maps source then some (Char.ofNat source) else none

end Decksmith.Text
