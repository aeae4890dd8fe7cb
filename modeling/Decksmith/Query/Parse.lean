import Decksmith.Query.Basic
import Decksmith.Query.Token

/-! Reading queries from left to right. An intersection binds tighter than a union. -/

namespace Decksmith.Query

/-- What has been read since the last open bracket: the alternatives that are complete and the factors
of the one that is not, both in reverse. -/
structure Frame where
  alternatives : List Query
  factors : List Query
deriving Repr

namespace Frame

/-- Nothing has been read yet. -/
def empty : Frame := ⟨[], []⟩

/-- Adds a factor to the current alternative. -/
def addFactor (frame : Frame) (factor : Query) : Frame :=
  { frame with factors := factor :: frame.factors }

/-- Completes the current alternative and starts another. -/
def nextAlternative (frame : Frame) : Frame :=
  -- The factors were collected in reverse.
  ⟨ofOperands .intersect frame.factors.reverse :: frame.alternatives, []⟩

/-- The query that has been read. -/
def close (frame : Frame) : Query :=
  ofOperands .union frame.nextAlternative.alternatives.reverse

end Frame

mutual

/-- Reads on where an operand has to stand. Enclosing frames wait for their closing brackets. -/
def readOperand (enclosing : List Frame) (frame : Frame) (position : Nat) (afterOpening : Bool) :
    List Token → Except SyntaxError Query
  | [] => .error (if afterOpening then .unbalancedBrackets else .missingOperand position)
  | .opening :: rest => readOperand (frame :: enclosing) .empty (position + 1) true rest
  | .expression text :: rest =>
    match Predicate.ofChars text with
    | .error fault => .error fault
    | .ok predicate => readOperator enclosing (frame.addFactor (test predicate)) (position + 1) rest
  | _ :: _ => .error (.missingOperand position)

/-- Reads on where an operator or a closing bracket has to stand, or the end. -/
def readOperator (enclosing : List Frame) (frame : Frame) (position : Nat) :
    List Token → Except SyntaxError Query
  | [] =>
    match enclosing with
    | [] => .ok frame.close
    | _ :: _ => .error .unbalancedBrackets
  | .and :: rest => readOperand enclosing frame (position + 1) false rest
  | .or :: rest => readOperand enclosing frame.nextAlternative (position + 1) false rest
  | .closing :: rest =>
    match enclosing with
    | [] => .error .unbalancedBrackets
    | outer :: others => readOperator others (outer.addFactor frame.close) (position + 1) rest
  | _ :: _ => .error (.missingOperator position)

end

/-- The query that some structural tokens form. -/
def ofTokens (tokens : List Token) : Except SyntaxError Query :=
  match tokens with
  | [] => .error .emptyQuery
  | _ => readOperand [] .empty 0 false tokens

/-- The query that a text spells. -/
def parse (text : String) : Except SyntaxError Query :=
  ofTokens (Token.split text.toList)

end Decksmith.Query
