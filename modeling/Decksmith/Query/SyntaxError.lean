/-! What can be wrong with the text of a query. -/

namespace Decksmith

/-- A fault in the text of a query. Positions count structural tokens from zero. -/
inductive SyntaxError where
  | emptyQuery
  | unknownField (token : String)
  | unknownRelation (token : String)
  | tooFewTokens (segment : String) (found : Nat)
  | unbalancedBrackets
  | missingOperand (position : Nat)
  | missingOperator (position : Nat)
deriving DecidableEq, Repr

/-- The text that reports a fault. -/
def SyntaxError.message : SyntaxError → String
  | emptyQuery => "query is empty"
  | unknownField token => "unknown field alias `" ++ token ++ "`"
  | unknownRelation token => "unknown relation `" ++ token ++ "`"
  | tooFewTokens segment found =>
    "expected field, relation and value in `" ++ segment ++ "`, found " ++ toString found ++
      " token(s)"
  | unbalancedBrackets => "unbalanced brackets"
  | missingOperand position => "expected an expression at token " ++ toString position
  | missingOperator position => "expected `&&` or `||` at token " ++ toString position

end Decksmith
