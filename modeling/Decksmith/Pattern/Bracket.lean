import Decksmith.Pattern.Escape

/-! Sets in brackets: members, ranges, named and nested sets, and operations between them. -/

namespace Decksmith.Pattern

/-- A part of a set in brackets, with how deep the unions, operations and brackets in it are nested. A part that is
read in one go has none of them. -/
structure Part where
  set : CharSet
  depth : Nat
deriving Repr

/-- A set that is being read: the operation that waits for its right side, and the parts of the side
that is being read, in reverse. -/
structure OpenSet where
  negated : Bool
  waiting : Option (SetOperation × Part)
  parts : List Part
deriving Repr

namespace OpenSet

/-- Adds a part to the side that is being read. -/
def add (set : OpenSet) (part : Part) : OpenSet :=
  { set with parts := part :: set.parts }

/-- The set on the side that is being read, combined with what waits for it. Case is set aside on
both sides before an operation. -/
def side (set : OpenSet) (flags : Flags) : Part :=
  let whole :=
    match set.parts with
    | [] => ⟨.union [], 0⟩
    | [part] => part
    | parts => ⟨.union (parts.map (·.set)).reverse, (parts.map (·.depth)).foldl max 0 + 1⟩
  match set.waiting with
  | none => whole
  | some (operation, left) =>
    ⟨.combined operation (foldSet flags left.set) (foldSet flags whole.set),
      max left.depth whole.depth + 1⟩

/-- Starts the right side of an operation. -/
def operate (set : OpenSet) (flags : Flags) (operation : SetOperation) : OpenSet :=
  { set with waiting := some (operation, set.side flags), parts := [] }

/-- The set that has been read. Case is set aside before a set is negated. -/
def close (set : OpenSet) (flags : Flags) : Part :=
  let side := set.side flags
  -- The other way round, a negated set would match the other case of its members.
  let whole := foldSet flags side.set
  ⟨if set.negated then .complement whole else whole, side.depth + 1⟩

end OpenSet

/-- Takes the minus signs at the start of a set as members. -/
def readLeadingMinus (flags : Flags) (set : OpenSet) : List Char → OpenSet × List Char
  | [] => (set, [])
  | c :: rest =>
    if c = '-' then readLeadingMinus flags (set.add ⟨.members ['-'], 0⟩) rest
    else if flags.spaced && Text.isBlank c then readLeadingMinus flags set rest
    else (set, dropSpace flags (c :: rest))

/-- Reads the start of a set behind its opening bracket: a negation, minus signs, and a closing
bracket that is a member because it comes first. -/
def readOpening (flags : Flags) (text : List Char) : OpenSet × List Char :=
  let (negated, rest) :=
    match dropSpace flags text with
    | '^' :: rest => (true, dropSpace flags rest)
    | rest => (false, rest)
  let (set, rest) := readLeadingMinus flags ⟨negated, none, []⟩ rest
  match set.parts, rest with
  | [], ']' :: rest => (set.add ⟨.members [']'], 0⟩, dropSpace flags rest)
  | _, rest => (set, rest)

/-- Reads `:name:]` behind an opening bracket. -/
def readNamedSet? (flags : Flags) : List Char → Option (CharSet × List Char)
  | ':' :: text =>
    let (negated, text) :=
      match text with
      | '^' :: rest => (true, rest)
      | text => (false, text)
    match text.dropWhile (· ≠ ':') with
    | ':' :: ']' :: rest =>
      (CharSet.namedAscii? (String.ofList (text.takeWhile (· ≠ ':')))).map fun set =>
        let set := foldSet flags set
        (if negated then .complement set else set, rest)
    | _ => none
  | _ => none

/-- Reads one member of a set, which a range can start or end with. -/
def readMember? (flags : Flags) : List Char → Option (Primitive × List Char)
  | [] => none
  | '\\' :: rest => readEscape? flags rest
  | c :: rest => some (.literal c, rest)

/-- The part of a set that a primitive is. Positions are no members, and without Unicode neither are
characters beyond ASCII. -/
def Primitive.toPart? (flags : Flags) : Primitive → Option CharSet
  | .literal c => if flags.unicode || c.toNat < 0x80 then some (.members [c]) else none
  | .byte c => some (.members [c])
  | .charSet set => some set
  | .assertion _ => none

/-- The character that a primitive is. -/
def Primitive.toChar? (flags : Flags) : Primitive → Option Char
  | .literal c => if flags.unicode || c.toNat < 0x80 then some c else none
  | .byte c => some c
  | _ => none

/-- Reads a member or a range. A minus sign in front of a closing bracket or of another minus sign
makes no range. -/
def readRange? (flags : Flags) (text : List Char) : Option (CharSet × List Char) :=
  match readMember? flags text with
  | none => none
  | some (first, rest) =>
    match dropSpace flags rest with
    | [] => none
    | c :: behind =>
      let next := (dropSpace flags behind).head?
      if c ≠ '-' ∨ next = some ']' ∨ next = some '-' then
        (first.toPart? flags).map fun part => (part, c :: behind)
      else
        match readMember? flags (dropSpace flags behind) with
        | none => none
        | some (last, rest) =>
          match first.toChar? flags, last.toChar? flags with
          | some low, some high => if low ≤ high then some (.range low high, rest) else none
          | _, _ => none

/-- Reads a set up to its closing bracket, with the sets around it still open. Every step reads at
least one character, so as many steps as characters suffice. -/
def readSetParts? (flags : Flags) : Nat → List OpenSet → OpenSet → List Char →
    Option (Part × List Char)
  | 0, _, _, _ => none
  | steps + 1, outer, set, text =>
    match dropSpace flags text with
    | [] => none
    | '[' :: rest =>
      match readNamedSet? flags rest with
      | some (named, rest) => readSetParts? flags steps outer (set.add ⟨named, 0⟩) rest
      | none =>
        let (inner, rest) := readOpening flags rest
        readSetParts? flags steps (set :: outer) inner rest
    | ']' :: rest =>
      match outer with
      | [] => some (set.close flags, rest)
      | around :: others =>
        readSetParts? flags steps others (around.add (set.close flags)) rest
    | '&' :: '&' :: rest => readSetParts? flags steps outer (set.operate flags .intersection) rest
    | '-' :: '-' :: rest => readSetParts? flags steps outer (set.operate flags .difference) rest
    | '~' :: '~' :: rest =>
      readSetParts? flags steps outer (set.operate flags .symmetricDifference) rest
    | text =>
      match readRange? flags text with
      | none => none
      | some (part, rest) => readSetParts? flags steps outer (set.add ⟨part, 0⟩) rest

/-- Reads a set behind its opening bracket. -/
def readBracket? (flags : Flags) (text : List Char) : Option (Part × List Char) :=
  let (set, rest) := readOpening flags text
  readSetParts? flags (text.length + 1) [] set rest

end Decksmith.Pattern
