import Decksmith.Query.SyntaxError
import Decksmith.Query.Vocabulary
import Decksmith.Text.Classes

/-! Predicates: one field against one literal, and their text. -/

namespace Decksmith

/-- A test of one field against one literal. -/
structure Predicate where
  key : FieldKey
  modifier : Modifier
  relation : Relation
  value : String
deriving DecidableEq, Repr

namespace Predicate

/-- The predicate with a literal that is trimmed first. -/
def trimmed (key : FieldKey) (modifier : Modifier) (relation : Relation) (value : List Char) :
    Predicate :=
  ⟨key, modifier, relation, String.ofList (Text.trim value)⟩

/-- The canonical text of a predicate. -/
def render (p : Predicate) : String :=
  let modifier :=
    match Vocabulary.modifierWord? p.modifier with
    | some word => " " ++ word
    | none => ""
  Vocabulary.aliasOf p.key ++ modifier ++ " " ++ Vocabulary.symbol p.relation ++ " " ++ p.value

/-- The three kinds of characters in a predicate's text. -/
inductive CharKind where
  | word
  | blank
  | symbol
deriving DecidableEq, Repr

/-- Letters, digits and the low line form words; what is neither that nor blank is a symbol. -/
def kindOf (c : Char) : CharKind :=
  if Text.isAlphanumeric c || c == '_' then .word
  else if Text.isBlank c then .blank
  else .symbol

/-- The maximal runs of word characters and of symbols, without the blanks between them. -/
def lexemes (segment : List Char) : List (List Char) :=
  (segment.splitBy fun a b => kindOf a == kindOf b).filter fun run => !run.all Text.isBlank

/-- Reads the relation and puts the literal together from the lexemes behind it. -/
def ofComparison (key : FieldKey) (modifier : Modifier) (relation : List Char)
    (value : List (List Char)) : Except SyntaxError Predicate :=
  match Vocabulary.relation? relation with
  | none => .error (.unknownRelation (String.ofList relation))
  | some relation => .ok (trimmed key modifier relation value.flatten)

/-- Reads a field, an optional modifier, a relation and a literal. -/
def ofChars (segment : List Char) : Except SyntaxError Predicate :=
  -- The faults are found in the order of the words: their number, the field, the relation.
  let tokens := lexemes segment
  let tooFew := SyntaxError.tooFewTokens (String.ofList (Text.trim segment)) tokens.length
  match tokens with
  | field :: second :: third :: others =>
    match Vocabulary.field? field with
    | none => .error (.unknownField (String.ofList field))
    | some key =>
      match Vocabulary.modifier? second, others with
      | none, _ => ofComparison key .none second (third :: others)
      | some _, [] => .error tooFew
      | some modifier, value => ofComparison key modifier third value
  | _ => .error tooFew

end Predicate

end Decksmith
