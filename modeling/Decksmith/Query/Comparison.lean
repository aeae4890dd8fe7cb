import Decksmith.Decimal.Numeral
import Decksmith.Text.Lowercase

/-! Equality as queries see it. -/

namespace Decksmith

/-- Whether equality of texts regards case. Patterns never do. -/
inductive CaseMode where
  | ignoring
  | strict
deriving DecidableEq, Repr

/-- The mode that a switch for strictness selects. -/
def CaseMode.ofStrict (strict : Bool) : CaseMode :=
  if strict then .strict else .ignoring

/-- How far apart two numbers may be and still count as equal. -/
def numericTolerance : Float := 0.001

/-- Whether two numbers count as equal. -/
def numbersAgree (a b : Float) : Bool :=
  (a - b).abs ≤ numericTolerance

/-- Whether two texts are equal in a mode. -/
def textsAgree (mode : CaseMode) (a b : String) : Bool :=
  match mode with
  | .strict => a == b
  | .ignoring => Text.lowercaseText a.toList == Text.lowercaseText b.toList

/-- Whether a field equals a literal: as numbers if both are numbers, as texts otherwise. -/
def looselyEqual (field literal : String) (mode : CaseMode) : Bool :=
  -- Only two numbers are compared as numbers; a mixed pair is a pair of texts.
  match Decimal.readFinite? field, Decimal.readFinite? literal with
  | some a, some b => numbersAgree a b
  | _, _ => textsAgree mode field literal

end Decksmith
