import Decksmith.Pattern.Flags
import Decksmith.Pattern.Node
import Decksmith.Text.Escaped

/-! What a backslash and the characters behind it stand for. -/

namespace Decksmith.Pattern

/-- The smallest parts of a pattern. -/
inductive Primitive where
  | literal (c : Char)
  /-- A byte beyond ASCII that two hexadecimal digits give. -/
  | byte (c : Char)
  | charSet (set : CharSet)
  | assertion (assertion : Assertion)
deriving Repr

/-- Whether an ASCII control character, blank or punctuation mark may follow a backslash to stand for
itself. The angle brackets may not, because they mark the ends of words. -/
def isEscapable (c : Char) : Bool :=
  c.toNat < 0x80 && !c.isAlphanum && c != '<' && c != '>'

/-- Drops the blanks and comments in front, where the flags allow them. -/
def dropSpace (flags : Flags) (text : List Char) : List Char :=
  if flags.spaced then go false text else text
where
  go (comment : Bool) : List Char → List Char
    | [] => []
    | c :: rest =>
      if comment then go (c != '\n') rest
      else if Text.isBlank c then go false rest
      else if c = '#' then go true rest
      else c :: rest

/-- Reads a fixed number of hexadecimal digits. -/
def readHexDigits? (flags : Flags) (value : Nat) : Nat → List Char → Option (Nat × List Char)
  | 0, rest => some (value, rest)
  | count + 1, c :: rest =>
    match Text.hexDigit? c with
    | none => none
    | some digit => readHexDigits? flags (16 * value + digit) count (dropSpace flags rest)
  | _ + 1, [] => none

/-- Reads hexadecimal digits up to a closing brace. -/
def readHexBrace? (value : Nat) (empty : Bool) : List Char → Option (Nat × List Char)
  | [] => none
  | c :: rest =>
    if c = '}' then if empty then none else some (value, rest)
    else
      match Text.hexDigit? c with
      | none => none
      | some digit => readHexBrace? (16 * value + digit) false rest

/-- Reads the code point behind a letter that announces `count` hexadecimal digits. -/
def readHex? (flags : Flags) (count : Nat) (text : List Char) : Option (Primitive × List Char) :=
  match dropSpace flags text with
  | [] => none
  | c :: rest =>
    if c = '{' then
      match readHexBrace? 0 true rest with
      | none => none
      | some (code, rest) => (Text.charOfCode? code).map fun c => (.literal c, dropSpace flags rest)
    else
      match readHexDigits? flags 0 count (c :: rest) with
      | none => none
      | some (code, rest) =>
        (Text.charOfCode? code).map fun c =>
          (if count = 2 ∧ 0x7F < code then .byte c else .literal c, rest)

/-- A set that a letter names, in the reading that the flags ask for. -/
def namedSet (flags : Flags) (unicode ascii : CharSet) (negated : Bool) : CharSet :=
  let set := if flags.unicode then unicode else ascii
  if negated then .complement set else set

/-- A set without regard to case, where the flags ask for that. -/
def foldSet (flags : Flags) (set : CharSet) : CharSet :=
  if !flags.ignoreCase then set
  else if flags.unicode then .folded set
  else .asciiFolded set

/-- The decimal digits of ASCII. -/
def asciiDigits : CharSet := .range '0' '9'

/-- The blanks of ASCII. -/
def asciiBlanks : CharSet := .union [.range '\t' '\r', .members [' ']]

/-- The word characters of ASCII. -/
def asciiWordParts : CharSet :=
  .union [.range '0' '9', .range 'A' 'Z', .members ['_'], .range 'a' 'z']

/-- Reads the general category that one letter of either case names. Only patterns over Unicode have
categories. -/
def readCategory? (flags : Flags) (negated : Bool) (text : List Char) :
    Option (Primitive × List Char) :=
  match dropSpace flags text with
  | [] => none
  | c :: rest =>
    match Text.Category.ofLetter? c.toUpper with
    | none => none
    | some category =>
      if flags.unicode then
        let set := foldSet flags (.category category)
        some (.charSet (if negated then .complement set else set), dropSpace flags rest)
      else none

/-- Reads what a backslash escapes. -/
def readEscape? (flags : Flags) : List Char → Option (Primitive × List Char)
  | [] => none
  | c :: rest =>
    let set (unicode ascii : CharSet) (negated : Bool) :=
      some (Primitive.charSet (namedSet flags unicode ascii negated), rest)
    let assertion (unicode ascii : Assertion) :=
      some (Primitive.assertion (if flags.unicode then unicode else ascii), rest)
    match c with
    | 'x' => readHex? flags 2 rest
    | 'u' => readHex? flags 4 rest
    | 'U' => readHex? flags 8 rest
    | 'p' => readCategory? flags false rest
    | 'P' => readCategory? flags true rest
    | 'd' => set .decimalDigits asciiDigits false
    | 'D' => set .decimalDigits asciiDigits true
    | 's' => set .blanks asciiBlanks false
    | 'S' => set .blanks asciiBlanks true
    | 'w' => set .wordParts asciiWordParts false
    | 'W' => set .wordParts asciiWordParts true
    | 'a' => some (.literal (Char.ofNat 0x07), rest)
    | 'f' => some (.literal (Char.ofNat 0x0C), rest)
    | 't' => some (.literal '\t', rest)
    | 'n' => some (.literal '\n', rest)
    | 'r' => some (.literal '\r', rest)
    | 'v' => some (.literal (Char.ofNat 0x0B), rest)
    | 'A' => some (.assertion .textStart, rest)
    | 'z' => some (.assertion .textEnd, rest)
    | 'b' => assertion .wordBoundary .asciiWordBoundary
    | 'B' => assertion .noWordBoundary .noAsciiWordBoundary
    | '<' => assertion .wordStart .asciiWordStart
    | '>' => assertion .wordEnd .asciiWordEnd
    | _ => if isEscapable c then some (.literal c, rest) else none

end Decksmith.Pattern
