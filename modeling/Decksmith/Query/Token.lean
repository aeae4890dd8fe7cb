import Decksmith.Text.Blank

/-! Structural tokens: brackets, operators and the expressions between them. -/

namespace Decksmith

/-- A structural token of a query. -/
inductive Token where
  | opening
  | closing
  | and
  | or
  | expression (text : List Char)
deriving DecidableEq, Repr

namespace Token

/-- The expression that a span is, unless it is blank. The span comes in reverse. -/
def ofSpan (reversed : List Char) : List Token :=
  if reversed.all Text.isBlank then [] else [expression reversed.reverse]

/-- Splits a text behind a span that has been read already, in reverse. -/
def splitAfter (span : List Char) : List Char → List Token
  | [] => ofSpan span
  | '[' :: rest => ofSpan span ++ opening :: splitAfter [] rest
  | ']' :: rest => ofSpan span ++ closing :: splitAfter [] rest
  | '&' :: '&' :: rest => ofSpan span ++ and :: splitAfter [] rest
  | '|' :: '|' :: rest => ofSpan span ++ or :: splitAfter [] rest
  | c :: rest => splitAfter (c :: span) rest

/-- Splits a text at brackets and operators and drops the blank spans between them. -/
def split (text : List Char) : List Token :=
  splitAfter [] text

end Token

end Decksmith
