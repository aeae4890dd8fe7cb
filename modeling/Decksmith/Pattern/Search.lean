import Decksmith.Pattern.Braces
import Decksmith.Pattern.Reader

/-! Searching a text for a pattern. Sets of offsets into the text are numbers, one bit an offset. -/

namespace Decksmith.Pattern

/-- The offsets in front of the characters that a set contains. -/
def CharSet.offsets (set : CharSet) (text : List Char) : Nat :=
  text.foldr (fun c later => 2 * later + (set.contains c).toNat) 0

/-- Whether the neighbour of an offset is part of a word. -/
def isWordAt (isPart : Char → Bool) (neighbour : Option Char) : Bool :=
  neighbour.any isPart

/-- The word characters of ASCII. -/
def isAsciiWordPart (c : Char) : Bool :=
  c.isAlphanum || c == '_'

/-- Whether an assertion holds between two neighbours, either of which may be missing. -/
def Assertion.holds (assertion : Assertion) (before after : Option Char) : Bool :=
  let wordBefore := isWordAt Text.isWordPart before
  let wordAfter := isWordAt Text.isWordPart after
  let asciiBefore := isWordAt isAsciiWordPart before
  let asciiAfter := isWordAt isAsciiWordPart after
  match assertion with
  | textStart => before.isNone
  | textEnd => after.isNone
  | lineStart => before.isNone || before == some '\n'
  | lineEnd => after.isNone || after == some '\n'
  | anyLineStart =>
    before.isNone || before == some '\n' || (before == some '\r' && after != some '\n')
  | anyLineEnd =>
    after.isNone || after == some '\r' || (after == some '\n' && before != some '\r')
  | wordBoundary => wordBefore != wordAfter
  | noWordBoundary => wordBefore == wordAfter
  | wordStart => !wordBefore && wordAfter
  | wordEnd => wordBefore && !wordAfter
  | asciiWordBoundary => asciiBefore != asciiAfter
  | noAsciiWordBoundary => asciiBefore == asciiAfter
  | asciiWordStart => !asciiBefore && asciiAfter
  | asciiWordEnd => asciiBefore && !asciiAfter

/-- The offsets at which an assertion holds, given the character before the text. -/
def Assertion.offsets (assertion : Assertion) (before : Option Char) : List Char → Nat
  | [] => (assertion.holds before none).toNat
  | c :: rest =>
    2 * assertion.offsets (some c) rest + (assertion.holds before (some c)).toNat

/-- The offsets that at most `rounds` further steps reach from the newest of those already seen. -/
def reachWithin (next : Nat → Nat) : Nat → Nat → Nat → Nat
  | 0, seen, _ => seen
  | rounds + 1, seen, newest =>
    -- A step from an offset seen before reaches nothing new, so only the newest go on.
    let both := next newest ||| seen
    let fresh := both ^^^ seen
    if fresh = 0 then seen else reachWithin next rounds both fresh

/-- The offsets that exactly `rounds` steps reach. -/
def reachAfter (next : Nat → Nat) : Nat → Nat → Nat
  | 0, starts => starts
  | rounds + 1, starts =>
    -- Once a step changes nothing, no further step does.
    let ends := next starts
    if ends = starts then starts else reachAfter next rounds ends

namespace Node

mutual

/-- The offsets at which a match can end that starts at one of the given offsets. -/
def ends (text : List Char) : Node → Nat → Nat
  | empty, starts => starts
  | one set, starts => if starts = 0 then 0 else 2 * (starts &&& set.offsets text)
  | bracket _ set, starts => if starts = 0 then 0 else 2 * (starts &&& set.offsets text)
  | assertion condition, starts => starts &&& condition.offsets none text
  | group body, starts => ends text body starts
  | sequence items, starts => endsInTurn text items starts
  | choice branches, starts => endsOfAny text branches starts
  | repetition body low high, starts =>
    let first := reachAfter (fun offsets => ends text body offsets) low starts
    let rounds :=
      match high with
      | some high => high - low
      | none => text.length + 1
    reachWithin (fun offsets => ends text body offsets) rounds first first

/-- The ends of matches of some nodes in a row. -/
def endsInTurn (text : List Char) : List Node → Nat → Nat
  | [], starts => starts
  | node :: others, starts => endsInTurn text others (ends text node starts)

/-- The ends of matches of any one of some nodes. -/
def endsOfAny (text : List Char) : List Node → Nat → Nat
  | [], _ => 0
  | node :: others, starts => ends text node starts ||| endsOfAny text others starts

end

/-- Whether a pattern matches somewhere in a text. -/
def matchesIn (node : Node) (text : List Char) : Bool :=
  -- A match may start at any offset, the end of the text included.
  node.ends text (1 <<< (text.length + 1) - 1) != 0

end Node

end Decksmith.Pattern

namespace Decksmith

/-- A pattern that has been read. -/
structure Pattern where
  root : Pattern.Node
deriving Repr

namespace Pattern

/-- Reads the literal of a predicate as a pattern, once its other braces are escaped. -/
def compile? (literal : String) : Option Pattern :=
  (Node.read? (escapeBraces literal.toList)).map Pattern.mk

/-- Whether a pattern matches somewhere in a text. -/
def isIn (pattern : Pattern) (text : String) : Bool :=
  pattern.root.matchesIn text.toList

end Pattern

end Decksmith
