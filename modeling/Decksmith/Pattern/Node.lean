import Decksmith.Pattern.CharSet

/-! The structure of patterns. -/

namespace Decksmith.Pattern

/-- A condition on a position in the text. -/
inductive Assertion where
  | textStart
  | textEnd
  | lineStart
  | lineEnd
  /-- The start of a line that carriage return, line feed or both can end. -/
  | anyLineStart
  | anyLineEnd
  | wordBoundary
  | noWordBoundary
  | wordStart
  | wordEnd
  | asciiWordBoundary
  | noAsciiWordBoundary
  | asciiWordStart
  | asciiWordEnd
deriving DecidableEq, Repr

/-- A pattern. -/
inductive Node where
  | empty
  | one (set : CharSet)
  /-- A set written in brackets, with how deep its brackets, unions and operations are nested. -/
  | bracket (depth : Nat) (set : CharSet)
  | assertion (assertion : Assertion)
  | group (body : Node)
  | sequence (items : List Node)
  | choice (branches : List Node)
  /-- The body `low` times at least and, if there is an upper bound, `high` times at most. -/
  | repetition (body : Node) (low : Nat) (high : Option Nat)
deriving Repr

namespace Node

/-- Several nodes in a row; a single one stands for itself. -/
def ofItems : List Node → Node
  | [] => empty
  | [item] => item
  | items => sequence items

/-- Several alternatives; a single one stands for itself. -/
def ofBranches : List Node → Node
  | [] => empty
  | [branch] => branch
  | branches => choice branches

mutual

/-- How deep the compound parts of a pattern are nested, down into its brackets. -/
def depth : Node → Nat
  | empty | one _ | assertion _ => 0
  | bracket depth _ => depth
  | group body => depth body + 1
  | sequence items => depths items + 1
  | choice branches => depths branches + 1
  | repetition body _ _ => depth body + 1

/-- The greatest depth among some nodes. -/
def depths : List Node → Nat
  | [] => 0
  | node :: others => max (depth node) (depths others)

end

end Node

/-- The memory in bytes that a category takes in an automaton over UTF-8, or what is outside of it. -/
def categoryWeight (negated : Bool) : Text.Category → Nat
  | .letter => if negated then 41796 else 41352
  | .mark => if negated then 26340 else 18140
  | .number => if negated then 19336 else 9272
  | .punctuation => if negated then 21968 else 11472
  | .symbol => if negated then 20976 else 15384
  | .separator => if negated then 1852 else 608
  | .other => if negated then 48852 else 41780

mutual

/-- The memory in bytes that a set takes in an automaton over UTF-8, or its complement if it is negated. A byte needs
a state of 32 bytes, and the way to a sequence of bytes another 4. The automaton that reads backwards is the larger
one, because it shares only what sequences start with; the classes of Unicode have the weight that they take there.
Other sets are weighed part by part. This leaves out that parts may overlap, that sequences may start alike, and which
characters differ from a member by case alone, so such a set may take less or more. -/
def CharSet.weight (negated : Bool) : CharSet → Nat
  | .any => if negated then 64 else 964
  | .members [c] => if negated then 1000 else 32 * c.utf8Size
  | .members chars =>
    let sequences := (chars.map fun c => 32 * c.utf8Size + 4).sum
    if negated then 964 + sequences
    else if chars.all (·.toNat < 0x80) then 64 + 8 * chars.length
    else 64 + sequences
  | .range first last =>
    let ends := 40 * (first.utf8Size + last.utf8Size)
    if negated then 964 + ends else if last.toNat < 0x80 then 72 else 64 + ends
  | .decimalDigits => if negated then 11656 else 4640
  | .blanks => if negated then 1924 else 680
  | .wordParts => if negated then 45064 else 48168
  | .category kind => categoryWeight negated kind
  | .union parts => CharSet.weights negated parts
  | .combined _ left right => max (left.weight negated) (right.weight negated)
  | .complement set => set.weight (!negated)
  | .folded set => set.weight negated + 48
  | .asciiFolded set => set.weight negated + 48

/-- The memory that the parts of a union take together. -/
def CharSet.weights (negated : Bool) : List CharSet → Nat
  | [] => 0
  | set :: others => set.weight negated + CharSet.weights negated others

end

namespace Node

mutual

/-- The memory in bytes that an automaton of a pattern takes. Every group counts as one that captures, and the bodies
of repetitions as ones that take at least a character, which the automaton treats in a simpler way. -/
def weight : Node → Nat
  | empty => 32
  | one set => set.weight false
  | bracket _ set => set.weight false
  | assertion _ => 32
  | group body => weight body + 64
  | sequence items => weights items
  | choice branches => weights branches + 4 * branches.length + 64
  | repetition body low none => max low 1 * weight body + 40
  | repetition body low (some high) =>
    let further := high - low
    if further = 0 then low * weight body
    else low * weight body + further * (weight body + 40) + 32

/-- The memory that some nodes take together. -/
def weights : List Node → Nat
  | [] => 0
  | node :: others => weight node + weights others

end

end Node

end Decksmith.Pattern
