import Decksmith.Proofs.Query.Grammar
import Decksmith.Proofs.Query.Split
import Decksmith.Proofs.Query.Vocabulary

/-! The structural tokens of a canonical text: brackets and operators around those of the predicates. -/

namespace Decksmith

namespace Predicate

/-- The canonical text of a predicate up to its value. -/
def lead (p : Predicate) : String :=
  let modifier :=
    match Vocabulary.modifierWord? p.modifier with
    | some word => " " ++ word
    | none => ""
  Vocabulary.aliasOf p.key ++ modifier ++ " " ++ Vocabulary.symbol p.relation ++ " "

/-- The characters in front of a value are inert. -/
theorem lead_inert (p : Predicate) : p.lead.toList.all Token.isInert = true := by
  obtain ⟨key, modifier, relation, value⟩ := p
  -- The aliases are words, and so are the modifiers and relations.
  have field : ∀ key ∈ FieldKey.all, (Vocabulary.aliasOf key).toList.all Token.isInert = true := by
    decide +kernel
  have field := field key key.mem_all
  -- The modifier is left out or stands behind a blank.
  have word : (match Vocabulary.modifierWord? modifier with
      | some word => " " ++ word
      | none => "").toList.all Token.isInert = true := by
    cases modifier <;> decide
  have sign : (Vocabulary.symbol relation).toList.all Token.isInert = true := by
    cases relation with
    | order order => cases order <;> decide
    | _ => decide
  have space : " ".toList.all Token.isInert = true := by decide
  simp only [lead, String.toList_append, List.all_append, field, word, sign, space, Bool.and_self]

/-- The text in front of a value starts with a word. -/
theorem lead_not_blank (p : Predicate) : p.lead.toList.reverse.all Text.isBlank = false := by
  -- No alias is blank.
  have field : ∀ key ∈ FieldKey.all, (Vocabulary.aliasOf key).toList.all Text.isBlank = false := by
    decide +kernel
  have field := field p.key p.key.mem_all
  simp only [lead, List.all_reverse, String.toList_append, List.all_append, field, Bool.false_and]

/-- The tokens of a predicate's text are those of its value behind a span that is not blank. -/
theorem split_render (p : Predicate) :
    Token.split p.render.toList = Token.splitAfter p.lead.toList.reverse p.value.toList := by
  -- Nothing in front of the value is structural, so it is collected in one span.
  have text : p.render.toList = p.lead.toList ++ p.value.toList := String.toList_append
  rw [text, Token.split, Token.splitAfter_inert _ _ p.lead_inert, List.append_nil]

/-- The text of a predicate starts with an expression. -/
theorem split_render_expression (p : Predicate) :
    ∃ words rest, Token.split p.render.toList = .expression words :: rest := by
  rw [split_render]
  exact Token.splitAfter_expression _ p.lead_not_blank

/-- The text of a predicate with a plain value is a single expression. -/
theorem split_render_plain {p : Predicate} (plain : Token.Plain p.value.toList) :
    Token.split p.render.toList = [.expression p.render.toList] := by
  have text : p.render.toList = p.lead.toList ++ p.value.toList := String.toList_append
  -- The span is not blank, because its beginning is not.
  have blank : (p.value.toList.reverse ++ p.lead.toList.reverse).all Text.isBlank = false := by
    rw [List.all_append, p.lead_not_blank, Bool.and_false]
  rw [split_render, Token.splitAfter_plain _ plain, Token.ofSpan, blank, text]
  simp

end Predicate

namespace Query

/-- The structural tokens of a query's canonical text. -/
def spelled (query : Query) : List Token :=
  Token.split query.render.toList

/-- A bracketed text is split on its own, and so is what follows it. -/
theorem split_bracketed (text rest : List Char) :
    Token.split ('[' :: (text ++ ']' :: rest)) =
      .opening :: (Token.split text ++ .closing :: Token.split rest) := by
  -- The opening bracket starts with an empty span, and the closing one ends the span before it.
  have inner := Token.splitAfter_append [] text rest (.inr ⟨rfl, rfl⟩)
  simp only [Token.split, Token.splitAfter, inner]
  rfl

/-- The blanks around an operator are dropped. -/
theorem split_operator (relation : SetRelation) (rest : List Char) :
    Token.split (' ' :: (relation.operator.toList ++ ' ' :: '[' :: rest)) =
      relation.token :: Token.split ('[' :: rest) := by
  cases relation <;> rfl

/-- A single operand stands in brackets. -/
theorem spelled_single (relation : SetRelation) (operand : Query) :
    (group relation [operand]).spelled = .opening :: (operand.spelled ++ [.closing]) := by
  -- The operand is alone, so nothing follows the closing bracket.
  have text : (group relation [operand]).render.toList =
      '[' :: (operand.render.toList ++ ']' :: []) := by
    simp [render, renderRest]
  rw [spelled, text, split_bracketed]
  rfl

/-- The first of several operands stands in brackets, and the operator separates it from the others. -/
theorem spelled_cons (relation : SetRelation) (first second : Query) (others : List Query) :
    (group relation (first :: second :: others)).spelled =
      .opening :: (first.spelled ++
        .closing :: relation.token :: (group relation (second :: others)).spelled) := by
  -- The later operands are written the way they are in a group of their own.
  have behind : (group relation (second :: others)).render.toList =
      '[' :: (second.render.toList ++ ']' :: (renderRest relation others).toList) := by
    simp [render]
  have text : (group relation (first :: second :: others)).render.toList =
      '[' :: (first.render.toList ++ ']' :: ' ' :: (relation.operator.toList ++ ' ' ::
        (group relation (second :: others)).render.toList)) := by
    rw [behind]
    simp [render, renderRest]
  rw [spelled, text, split_bracketed, behind, split_operator, ← behind]
  rfl

end Query

end Decksmith
