/-! Braces in patterns: those that count repetitions keep their meaning, all others stand for themselves. -/

namespace Decksmith.Pattern

/-- Whether the text behind an opening brace goes on as `n}`, `n,}` or `n,m}`. -/
def countsRepetitions (behindBrace : List Char) : Bool :=
  -- The lower bound needs a digit, the upper bound does not.
  match behindBrace.takeWhile Char.isDigit, behindBrace.dropWhile Char.isDigit with
  | [], _ => false
  | _, '}' :: _ => true
  | _, ',' :: upper => (upper.dropWhile Char.isDigit).head? == some '}'
  | _, _ => false

/-- Whether the character in front of an opening brace, if there is one, can end something that
repeats. -/
def isRepeatable : Option Char → Bool
  | none => false
  | some c => c != '(' && c != '|' && c != '{' && c != '}'

/-- Escapes the braces behind a character. Within a counted repetition the closing brace is kept;
a backslash keeps the character behind it. -/
def escapeBehind (before : Option Char) (counting : Bool) : List Char → List Char
  | [] => []
  | '\\' :: [] => ['\\']
  | '\\' :: c :: rest => '\\' :: c :: escapeBehind (some c) false rest
  | c :: rest =>
    if c = '{' then
      if isRepeatable before && countsRepetitions rest then
        '{' :: escapeBehind (some '{') true rest
      else '\\' :: '{' :: escapeBehind (some '{') false rest
    else if c = '}' then
      if counting then '}' :: escapeBehind (some '}') false rest
      else '\\' :: '}' :: escapeBehind (some '}') false rest
    else c :: escapeBehind (some c) counting rest

/-- A pattern with every brace escaped that does not count repetitions of something in front. -/
def escapeBraces (pattern : List Char) : List Char :=
  escapeBehind none false pattern

end Decksmith.Pattern
