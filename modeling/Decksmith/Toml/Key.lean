import Decksmith.Toml.Quoted

/-! Keys: the path of names under which a value stands. -/

namespace Decksmith.Toml

/-- The most names that a path may have, and the most arrays and tables that may be nested in one
value. -/
def nestingLimit : Nat := 79

/-- Whether a character may stand in a name without quotes. -/
def isBare (c : Char) : Bool :=
  c.isAlphanum || c == '-' || c == '_'

/-- Reads a name, with or without quotes. A quoted name stays on one line. -/
def readName? : List Char → Option (String × List Char)
  | '"' :: rest => readLineString? '"' rest
  | '\'' :: rest => readLineString? '\'' rest
  | text =>
    match text.takeWhile isBare with
    | [] => none
    | name => some (String.ofList name, text.dropWhile isBare)

/-- Reads a path of at most so many names. Spaces around names do not count. -/
def readNames? : Nat → List Char → Option (List String × List Char)
  | 0, _ => none
  | limit + 1, text => do
    let (name, rest) ← readName? (skipSpaces text)
    match skipSpaces rest with
    | '.' :: rest =>
      let (others, rest) ← readNames? limit rest
      return (name :: others, rest)
    | rest => return ([name], rest)

/-- Reads a path. -/
def readPath? (text : List Char) : Option (List String × List Char) :=
  readNames? nestingLimit text

end Decksmith.Toml
