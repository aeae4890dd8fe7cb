import Decksmith.Text.Blank
import Decksmith.Text.Classes
import Decksmith.Text.Folding

/-! Sets of characters, as patterns describe them. -/

namespace Decksmith.Pattern

/-- A way to combine two sets inside brackets. -/
inductive SetOperation where
  | intersection
  | difference
  | symmetricDifference
deriving DecidableEq, Repr

/-- Membership in the combination of two sets. -/
def SetOperation.combine : SetOperation → Bool → Bool → Bool
  | intersection, left, right => left && right
  | difference, left, right => left && !right
  | symmetricDifference, left, right => left != right

/-- A set of characters. -/
inductive CharSet where
  | any
  | members (chars : List Char)
  | range (first last : Char)
  | decimalDigits
  | blanks
  | wordParts
  | category (kind : Text.Category)
  | union (parts : List CharSet)
  | combined (operation : SetOperation) (left right : CharSet)
  | complement (set : CharSet)
  /-- Everything that differs from a member by case alone. -/
  | folded (set : CharSet)
  /-- The same for the case of ASCII letters. -/
  | asciiFolded (set : CharSet)
deriving Repr

namespace CharSet

mutual

/-- Whether a set contains a character. -/
def contains : CharSet → Char → Bool
  | any, _ => true
  | members chars, c => chars.contains c
  | range first last, c => first ≤ c && c ≤ last
  | decimalDigits, c => Text.isDecimalDigit c
  | blanks, c => Text.isBlank c
  | wordParts, c => Text.isWordPart c
  | category kind, c => kind.contains c
  | union parts, c => anyContains parts c
  | combined operation left right, c => operation.combine (contains left c) (contains right c)
  | complement set, c => !contains set c
  | folded set, c => contains set c || (Text.caseVariants c).any fun other => contains set other
  | asciiFolded set, c => contains set c || contains set c.toLower || contains set c.toUpper

/-- Whether one of some sets contains a character. -/
def anyContains : List CharSet → Char → Bool
  | [], _ => false
  | set :: others, c => contains set c || anyContains others c

end

/-- The characters of ASCII that the names in `[:name:]` stand for. -/
def namedAscii? : String → Option CharSet
  | "alnum" => some (.union [.range '0' '9', .range 'A' 'Z', .range 'a' 'z'])
  | "alpha" => some (.union [.range 'A' 'Z', .range 'a' 'z'])
  | "ascii" => some (.range (Char.ofNat 0x00) (Char.ofNat 0x7F))
  | "blank" => some (.members ['\t', ' '])
  | "cntrl" => some (.union [.range (Char.ofNat 0x00) (Char.ofNat 0x1F), .members [Char.ofNat 0x7F]])
  | "digit" => some (.range '0' '9')
  | "graph" => some (.range '!' '~')
  | "lower" => some (.range 'a' 'z')
  | "print" => some (.range ' ' '~')
  | "punct" =>
    some (.union [.range '!' '/', .range ':' '@', .range '[' (Char.ofNat 0x60), .range '{' '~'])
  | "space" => some (.union [.range '\t' '\r', .members [' ']])
  | "upper" => some (.range 'A' 'Z')
  | "word" => some (.union [.range '0' '9', .range 'A' 'Z', .members ['_'], .range 'a' 'z'])
  | "xdigit" => some (.union [.range '0' '9', .range 'A' 'F', .range 'a' 'f'])
  | _ => none

/-- Whether a set read byte by byte keeps to ASCII. -/
def isAsciiOnly (set : CharSet) : Bool :=
  (List.range 0x80).all fun i => !set.contains (Char.ofNat (0x80 + i))

end CharSet

end Decksmith.Pattern
