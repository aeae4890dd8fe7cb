import Decksmith.Query.Parse

/-! Reading queries by descent: each rule of the grammar reads at a position of the tokens, and tells the position
behind what it has read. -/

namespace Decksmith.Query

namespace Descent

/-- Reads operands for as long as an operator stands in front of the next one. The bound is on how many they are. -/
def others (tokens : List Token) (operator : Token)
    (operand : Nat → Except SyntaxError (Query × Nat)) :
    Nat → Nat → Except SyntaxError (List Query × Nat)
  | 0, position => .ok ([], position)
  | bound + 1, position =>
    if tokens[position]? = some operator then do
      let (next, behind) ← operand (position + 1)
      let (later, last) ← others tokens operator operand bound behind
      .ok (next :: later, last)
    else .ok ([], position)

/-- Reads operands with one kind of operator between them, and forms their group. -/
def chain (tokens : List Token) (operator : Token) (relation : SetRelation)
    (operand : Nat → Except SyntaxError (Query × Nat)) (position : Nat) :
    Except SyntaxError (Query × Nat) := do
  let (first, behind) ← operand position
  -- Every further operand takes tokens, so there are no more of them than tokens.
  let (later, last) ← others tokens operator operand tokens.length behind
  .ok (ofOperands relation (first :: later), last)

/-- Takes the closing bracket behind what has been read in brackets. -/
def close (tokens : List Token) (query : Query) (position : Nat) :
    Except SyntaxError (Query × Nat) :=
  match tokens[position]? with
  | some .closing => .ok (query, position + 1)
  | none => .error .unbalancedBrackets
  | some _ => .error (.missingOperator position)

/-- Reads an expression, or a union in brackets. The depth bounds how many brackets are open. -/
def atom (tokens : List Token) : Nat → Nat → Except SyntaxError (Query × Nat)
  | 0, position => .error (.missingOperand position)
  | depth + 1, position =>
    match tokens[position]? with
    | some .opening => do
      let (inner, behind) ←
        chain tokens .or .union (chain tokens .and .intersect (atom tokens depth)) (position + 1)
      close tokens inner behind
    | some (.expression text) => do
      let predicate ← Predicate.ofChars text
      .ok (test predicate, position + 1)
    | none =>
      -- At the end it depends on the last token what is missing.
      if 0 < position ∧ tokens[position - 1]? = some .opening then .error .unbalancedBrackets
      else .error (.missingOperand position)
    | some _ => .error (.missingOperand position)

/-- Reads atoms with intersections between them. -/
def intersection (tokens : List Token) (depth : Nat) : Nat → Except SyntaxError (Query × Nat) :=
  chain tokens .and .intersect (atom tokens depth)

/-- Reads intersections with unions between them. -/
def union (tokens : List Token) (depth : Nat) : Nat → Except SyntaxError (Query × Nat) :=
  chain tokens .or .union (intersection tokens depth)

/-- The query that has been read, unless something stands behind it. -/
def finish (tokens : List Token) (query : Query) (position : Nat) : Except SyntaxError Query :=
  match tokens[position]? with
  | none => .ok query
  | some .closing => .error .unbalancedBrackets
  | some _ => .error (.missingOperator position)

end Descent

/-- The query that some structural tokens form, read by descent. -/
def descend (tokens : List Token) : Except SyntaxError Query :=
  if tokens.isEmpty then .error .emptyQuery
  else do
    let (query, behind) ← Descent.union tokens (tokens.length + 1) 0
    Descent.finish tokens query behind

end Decksmith.Query
