import Decksmith.Pattern.Bracket

/-! Reading patterns: groups, alternatives, repetitions and flags. -/

namespace Decksmith.Pattern

/-- What was read before an open group: the alternatives and items around it, in reverse, and the
flags that hold again behind it. -/
structure Enclosing where
  branches : List Node
  items : List Node
  flags : Flags
deriving Repr

/-- A pattern that is being read. -/
structure Reading where
  flags : Flags := {}
  outer : List Enclosing := []
  branches : List Node := []
  items : List Node := []
  groupNames : List (List Char) := []
  rest : List Char
deriving Repr

namespace Reading

/-- Adds an item in front of what is still to be read. -/
def add (reading : Reading) (item : Node) (rest : List Char) : Reading :=
  { reading with items := item :: reading.items, rest := rest }

/-- The alternatives that have been read since the last open group. -/
def body (reading : Reading) : Node :=
  Node.ofBranches (Node.ofItems reading.items.reverse :: reading.branches).reverse

/-- The node of a literal character. -/
def literal (flags : Flags) (c : Char) : Node :=
  if !flags.ignoreCase then .one (.members [c])
  else if flags.unicode then .one (.members (Text.caseVariants c).eraseDups)
  else .one (.members [c.toLower, c.toUpper].eraseDups)

/-- The node of a set, which without Unicode must keep to ASCII. -/
def ofSet? (flags : Flags) (make : CharSet → Node) (set : CharSet) : Option Node :=
  if flags.unicode || set.isAsciiOnly then some (make set) else none

/-- The node of a primitive. A byte beyond ASCII is a character only with Unicode. -/
def ofPrimitive? (flags : Flags) : Primitive → Option Node
  | .literal c => some (literal flags c)
  | .byte c => if flags.unicode then some (literal flags c) else none
  | .charSet set => ofSet? flags .one set
  | .assertion assertion => some (.assertion assertion)

/-- The set that a dot stands for. It is a matter of Unicode characters only. -/
def dot? (flags : Flags) : Option Node :=
  if !flags.unicode then none
  else if flags.dotAll then some (.one .any)
  else if flags.anyLineEnding then some (.one (.complement (.members ['\r', '\n'])))
  else some (.one (.complement (.members ['\n'])))

/-- The assertion that a circumflex stands for. -/
def circumflex (flags : Flags) : Assertion :=
  if !flags.multiLine then .textStart
  else if flags.anyLineEnding then .anyLineStart
  else .lineStart

/-- The assertion that a dollar sign stands for. -/
def dollar (flags : Flags) : Assertion :=
  if !flags.multiLine then .textEnd
  else if flags.anyLineEnding then .anyLineEnd
  else .lineEnd

/-- Drops the question mark that makes a repetition prefer short matches. -/
def dropPreference : List Char → List Char
  | '?' :: rest => rest
  | rest => rest

/-- Repeats the last item. Neither nothing nor a setting of flags can be repeated. -/
def repeatLast? (reading : Reading) (low : Nat) (high : Option Nat) (rest : List Char) :
    Option Reading :=
  match reading.items with
  | [] => none
  | .empty :: _ => none
  | item :: others =>
    some { reading with items := .repetition item low high :: others, rest := rest }

/-- Reads a count of repetitions, which fits into 32 bits. -/
def readCount? (flags : Flags) (text : List Char) : Option (Nat × List Char) :=
  let text := dropSpace flags (text.dropWhile Text.isBlank)
  let digits := text.takeWhile Char.isDigit
  let count := digits.foldl (fun value c => 10 * value + (c.toNat - '0'.toNat)) 0
  if digits = [] ∨ UInt32.size ≤ count then none
  else some (count, dropSpace flags ((text.dropWhile Char.isDigit).dropWhile Text.isBlank))

/-- Reads the bounds behind an opening brace, up to the closing one. -/
def readBounds? (flags : Flags) (text : List Char) : Option (Nat × Option Nat × List Char) :=
  match readCount? flags (dropSpace flags text) with
  | none => none
  | some (low, '}' :: rest) => some (low, some low, rest)
  | some (low, ',' :: rest) =>
    match dropSpace flags rest with
    | '}' :: rest => some (low, none, rest)
    | rest =>
      match readCount? flags rest with
      | some (high, '}' :: rest) => if low ≤ high then some (low, some high, rest) else none
      | _ => none
  | some _ => none

/-- Opens a group with the given flags inside. -/
def openGroup (reading : Reading) (flags : Flags) (rest : List Char) : Reading :=
  { reading with
    flags := flags
    outer := ⟨reading.branches, reading.items, reading.flags⟩ :: reading.outer
    branches := []
    items := []
    rest := rest }

/-- Whether a character may stand in the name of a group, or at its start. -/
def isNameChar (first : Bool) (c : Char) : Bool :=
  if first then c == '_' || Text.isAlphabetic c
  else c == '_' || c == '.' || c == '[' || c == ']' || Text.isAlphanumeric c

/-- Opens a group whose name ends with an angle bracket. No two groups share a name. -/
def openNamedGroup? (reading : Reading) (text : List Char) : Option Reading :=
  let name := text.takeWhile (· ≠ '>')
  match text.dropWhile (· ≠ '>'), name with
  | '>' :: rest, first :: others =>
    if isNameChar true first && others.all (isNameChar false) &&
        !reading.groupNames.contains name then
      some ({ reading with groupNames := name :: reading.groupNames }.openGroup reading.flags rest)
    else none
  | _, _ => none

/-- Reads what an opening parenthesis starts: a group, or flags for the rest of this one. Nothing
looks ahead or behind. -/
def readParenthesis? (reading : Reading) (text : List Char) : Option Reading :=
  match dropSpace reading.flags text with
  | '?' :: 'P' :: '<' :: rest => reading.openNamedGroup? rest
  | '?' :: '<' :: rest => reading.openNamedGroup? rest
  | '?' :: rest =>
    match reading.flags.read? [] true rest with
    | none => none
    | some (flags, _, true, rest) => some (reading.openGroup flags rest)
    | some (_, false, false, _) => none
    | some (flags, true, false, rest) => some ({ reading with flags := flags }.add .empty rest)
  | rest => some (reading.openGroup reading.flags rest)

/-- Closes the innermost group. -/
def closeGroup? (reading : Reading) (rest : List Char) : Option Reading :=
  match reading.outer with
  | [] => none
  | around :: others =>
    some { reading with
      flags := around.flags
      outer := others
      branches := around.branches
      items := .group reading.body :: around.items
      rest := rest }

/-- Reads the next item, operator or bracket. -/
def step? (reading : Reading) (c : Char) (rest : List Char) : Option Reading :=
  let flags := reading.flags
  match c with
  | '(' => reading.readParenthesis? rest
  | ')' => reading.closeGroup? rest
  | '|' =>
    some { reading with
      branches := Node.ofItems reading.items.reverse :: reading.branches, items := [], rest := rest }
  | '[' =>
    match readBracket? flags rest with
    | none => none
    | some (part, rest) =>
      (ofSet? flags (.bracket part.depth) part.set).map fun node => reading.add node rest
  | '?' => reading.repeatLast? 0 (some 1) (dropPreference rest)
  | '*' => reading.repeatLast? 0 none (dropPreference rest)
  | '+' => reading.repeatLast? 1 none (dropPreference rest)
  | '{' =>
    match readBounds? flags rest with
    | none => none
    | some (low, high, rest) =>
      reading.repeatLast? low high (dropPreference (dropSpace flags rest))
  | '.' => (dot? flags).map fun node => reading.add node rest
  | '^' => some (reading.add (.assertion (circumflex flags)) rest)
  | '$' => some (reading.add (.assertion (dollar flags)) rest)
  | '\\' =>
    match readEscape? flags rest with
    | none => none
    | some (primitive, rest) => (ofPrimitive? flags primitive).map fun node => reading.add node rest
  | _ => some (reading.add (literal flags c) rest)

/-- Reads on to the end, where no group may be open. Every step reads at least one character. -/
def run? : Nat → Reading → Option Node
  | 0, _ => none
  | steps + 1, reading =>
    match dropSpace reading.flags reading.rest with
    | [] => if reading.outer.isEmpty then some reading.body else none
    | c :: rest =>
      match reading.step? c rest with
      | none => none
      | some reading => run? steps reading

end Reading

/-- How deep the parts of a pattern may be nested. -/
def depthLimit : Nat := 250

/-- How many bytes an automaton of a pattern may take. -/
def weightLimit : Nat := 10 <<< 20

/-- Reads a pattern, unless it is malformed, nested too deep or too large. The first two are exact. The weight is an
estimate, so that a pattern whose automaton takes nearly as much as is allowed may be read or refused. -/
def Node.read? (text : List Char) : Option Node :=
  ((Reading.run? (text.length + 1) { rest := text }).filter fun node =>
    node.depth ≤ depthLimit).filter fun node => node.weight ≤ weightLimit

end Decksmith.Pattern
