import Decksmith.Proofs.Query.Evaluation
import Decksmith.Proofs.Query.Predicate
import Decksmith.Proofs.Query.Rendering

/-! Texts of queries that are put together with brackets and operators spell the queries put together. -/

namespace Decksmith

namespace Token

/-- The token without the blanks around an expression. -/
def trimmed : Token → Token
  | .expression text => .expression (Text.trim text)
  | token => token

/-- The trimmed expression of a span is what trimming leaves of the span. -/
theorem map_trimmed_ofSpan (span : List Char) :
    (ofSpan span).map trimmed =
      if Text.trim span.reverse = [] then [] else [.expression (Text.trim span.reverse)] := by
  -- A span is blank just when trimming leaves nothing of it.
  unfold ofSpan
  simp only [Text.trim_eq_nil_iff, List.all_reverse]
  split
  · rfl
  · rfl

/-- Blanks at the start of a text do not show in its trimmed tokens. -/
theorem map_trimmed_splitAfter {front : List Char} (blank : front.all Text.isBlank = true)
    (span text : List Char) :
    (splitAfter (span ++ front) text).map trimmed = (splitAfter span text).map trimmed := by
  -- The blanks are part of the first span, where they stand at the start.
  have first : ∀ span, (ofSpan (span ++ front)).map trimmed = (ofSpan span).map trimmed := by
    intro span
    have reversed : front.reverse.all Text.isBlank = true := by rwa [List.all_reverse]
    rw [map_trimmed_ofSpan, map_trimmed_ofSpan, List.reverse_append, Text.trim_append_left reversed]
  fun_induction splitAfter span text with
  | case1 span => exact first span
  | case2 span text ih => simp [splitAfter, first]
  | case3 span text ih => simp [splitAfter, first]
  | case4 span text ih => simp [splitAfter, first]
  | case5 span text ih => simp [splitAfter, first]
  | case6 span c text opening closing both either ih =>
    rw [← ih, splitAfter]
    · rfl
    · exact opening
    · exact closing
    · exact both
    · exact either

/-- An operator between blanks splits a text into its two sides. -/
theorem map_trimmed_split_operator (relation : SetRelation) (first second : List Char) :
    (split (first ++ ' ' :: (relation.operator.toList ++ ' ' :: second))).map trimmed =
      (split first ++ relation.token :: split second).map trimmed := by
  obtain ⟨tokens, last, cut⟩ := exists_cut [] first
  have blank : [' '].all Text.isBlank = true := by decide
  -- The blank in front of the operator is the end of the last span of the first side.
  have left : (ofSpan (' ' :: last)).map trimmed = (ofSpan last).map trimmed := by
    rw [map_trimmed_ofSpan, map_trimmed_ofSpan, List.reverse_cons, Text.trim_append_right blank]
  have right : (splitAfter [' '] second).map trimmed = (splitAfter [] second).map trimmed :=
    map_trimmed_splitAfter blank [] second
  have operator : splitAfter last (' ' :: (relation.operator.toList ++ ' ' :: second)) =
      ofSpan (' ' :: last) ++ relation.token :: splitAfter [' '] second := by
    cases relation <;> rfl
  unfold split
  rw [cut _ (by simp), operator, cut.whole]
  simp only [List.map_append, List.map_cons, left, right, List.append_assoc]

end Token

namespace Query

mutual

/-- Blanks around expressions do not matter where an operand has to stand. -/
theorem readOperand_trimmed (enclosing : List Frame) (frame : Frame) (position : Nat)
    (afterOpening : Bool) (tokens : List Token) :
    readOperand enclosing frame position afterOpening (tokens.map Token.trimmed) =
      readOperand enclosing frame position afterOpening tokens := by
  match tokens with
  | [] => rfl
  | .opening :: rest =>
    simp only [List.map_cons, Token.trimmed, readOperand]
    exact readOperand_trimmed _ _ _ _ rest
  | .expression text :: rest =>
    -- The expression is read in the same way, and a fault of it is the same.
    simp only [List.map_cons, Token.trimmed, readOperand, Predicate.ofChars_trim]
    split
    · rfl
    · exact readOperator_trimmed _ _ _ rest
  | .closing :: _ => rfl
  | .and :: _ => rfl
  | .or :: _ => rfl

/-- Nor do they where an operator has to stand. -/
theorem readOperator_trimmed (enclosing : List Frame) (frame : Frame) (position : Nat)
    (tokens : List Token) :
    readOperator enclosing frame position (tokens.map Token.trimmed) =
      readOperator enclosing frame position tokens := by
  -- Trimming leaves structural tokens as they are, and expressions are no operators in either form.
  match tokens with
  | [] => rfl
  | .and :: rest =>
    simp only [List.map_cons, Token.trimmed, readOperator]
    exact readOperand_trimmed _ _ _ _ rest
  | .or :: rest =>
    simp only [List.map_cons, Token.trimmed, readOperator]
    exact readOperand_trimmed _ _ _ _ rest
  | .closing :: rest =>
    simp only [List.map_cons, Token.trimmed, readOperator]
    split
    · rfl
    · exact readOperator_trimmed _ _ _ rest
  | .opening :: _ => rfl
  | .expression _ :: _ => rfl

end

/-- Tokens that differ only in the blanks around expressions form the same query. -/
theorem ofTokens_congr {tokens others : List Token}
    (same : tokens.map Token.trimmed = others.map Token.trimmed) :
    ofTokens tokens = ofTokens others := by
  -- Reading does not see whether an expression has been trimmed.
  have trimmed : ∀ tokens : List Token, ofTokens (tokens.map Token.trimmed) = ofTokens tokens := by
    intro tokens
    cases tokens with
    | nil => rfl
    | cons token rest => exact readOperand_trimmed _ _ _ _ (token :: rest)
  rw [← trimmed tokens, same, trimmed others]

/-- A union selects what one of its operands selects, also when it is a single operand itself. -/
theorem marks_ofOperands_union {mode : CaseMode} (operands : List Query) (record : Record) :
    (ofOperands .union operands).marks mode record =
      operands.any fun query => query.marks mode record := by
  -- Without operands a union selects nothing, and a single operand stands for itself.
  match operands with
  | [] => exact marks_union [] record
  | [query] => simp [ofOperands]
  | first :: second :: others => exact marks_union (first :: second :: others) record

/-- A query in brackets is an operand, whatever its own operators are. -/
theorem Disjunction.grouped {tokens others : List Token} {left right : Query}
    (first : Disjunction tokens left) (second : Disjunction others right) (relation : SetRelation) :
    Disjunction (.opening :: (tokens ++ .closing :: relation.token ::
      .opening :: (others ++ [.closing]))) (group relation [left, right]) := by
  have front : .opening :: (tokens ++ .closing :: relation.token ::
      .opening :: (others ++ [.closing])) = (.opening :: (tokens ++ [.closing])) ++
        relation.token :: (.opening :: (others ++ [.closing])) := by simp
  rw [front]
  cases relation with
  | union =>
    -- Each pair of brackets is an alternative with a single factor.
    have left := Conjunction.chain (.last (.bracketed first))
    have right := Conjunction.chain (.last (.bracketed second))
    exact .chain (.before left (.last right))
  | intersect =>
    -- Both pairs of brackets are factors of the only alternative.
    have both := Conjunction.chain (.before (.bracketed first) (.last (.bracketed second)))
    exact .chain (.last both)

/-- The alternatives of two queries are the alternatives of one. -/
theorem Disjunction.joined {tokens others : List Token} {left right : Query}
    (first : Disjunction tokens left) (second : Disjunction others right) :
    ∃ query, Disjunction (tokens ++ .or :: others) query ∧ ∀ mode record,
      query.marks mode record = (left.marks mode record || right.marks mode record) := by
  -- Both are chains of alternatives, which are chained again by the operator between them.
  cases first with
  | @chain _ operands run =>
    cases second with
    | @chain _ further rest =>
      refine ⟨_, .chain (Alternatives.append rest run), fun mode record => ?_⟩
      rw [marks_ofOperands_union, marks_ofOperands_union, marks_ofOperands_union, List.any_append]

end Query

namespace QueryTree

/-- From every list of records, a tree selects those that two others select together: both of them in an
intersection, and one of them in a union. -/
def SelectsAs (tree : QueryTree) (relation : SetRelation) (left right : QueryTree) : Prop :=
  ∀ mode records,
    tree.mask mode records =
      List.zipWith relation.combine (left.mask mode records) (right.mask mode records) ∧
    tree.select mode records = records.filter fun record =>
      relation.combine (left.marks mode record) (right.marks mode record)

/-- What is selected together is decided for each record by itself. -/
theorem SelectsAs.of_marks {tree left right : QueryTree} {relation : SetRelation}
    (together : ∀ mode record, tree.marks mode record =
      relation.combine (left.marks mode record) (right.marks mode record)) :
    tree.SelectsAs relation left right := by
  intro mode records
  refine ⟨?_, ?_⟩
  -- A mask is made of the records' own bits, and so is the combination of two masks.
  · rw [mask_eq_map, mask_eq_map, mask_eq_map, List.zipWith_map, List.zipWith_self]
    exact List.map_congr_left fun record _ => together mode record
  · rw [select_eq_filter]
    exact List.filter_congr fun record _ => together mode record

variable {first second : String} {left right : QueryTree}

/-- Brackets around a text do not change its tree. -/
theorem parse_bracketed (parsed : parse first = .ok left) :
    parse ("[" ++ first ++ "]") = .ok left := by
  obtain ⟨query, derived, rfl⟩ := parse_eq_ok_iff.mp parsed
  have text : ("[" ++ first ++ "]").toList = '[' :: (first.toList ++ ']' :: []) := by simp
  refine parse_eq_ok_iff.mpr ⟨query, ?_, rfl⟩
  rw [text, Query.split_bracketed]
  -- The brackets are an operand, and the only one.
  exact .chain (.last (.chain (.last (.bracketed derived))))

/-- An operator between two bracketed texts joins their trees. -/
theorem parse_joined (one : parse first = .ok left) (two : parse second = .ok right)
    (relation : SetRelation) :
    parse ("[" ++ first ++ "] " ++ relation.operator ++ " [" ++ second ++ "]") =
        .ok (join relation left right) ∧
      (join relation left right).SelectsAs relation left right := by
  obtain ⟨q, derived, rfl⟩ := parse_eq_ok_iff.mp one
  obtain ⟨r, further, rfl⟩ := parse_eq_ok_iff.mp two
  -- The brackets keep both queries together, so the operator makes a group of two.
  have grouped := derived.grouped further relation
  have joined : join relation (ofQuery q) (ofQuery r) = ofQuery (.group relation [q, r]) := by
    rw [join_eq, toQuery_ofQuery derived.compact, toQuery_ofQuery further.compact]
  rw [joined]
  constructor
  · have text : ("[" ++ first ++ "] " ++ relation.operator ++ " [" ++ second ++ "]").toList =
        '[' :: (first.toList ++ ']' :: ' ' :: (relation.operator.toList ++
          ' ' :: '[' :: (second.toList ++ ']' :: []))) := by simp
    refine parse_eq_ok_iff.mpr ⟨_, ?_, rfl⟩
    rw [text, Query.split_bracketed, Query.split_operator, Query.split_bracketed]
    exact grouped
  -- A group of two combines the bits of both.
  · refine .of_marks fun mode record => ?_
    rw [marks_ofQuery grouped.compact, marks_ofQuery derived.compact, marks_ofQuery further.compact]
    exact Query.marks_group_cons relation q [r] record

/-- The operator of a union joins two texts also without brackets. -/
theorem parse_union (one : parse first = .ok left) (two : parse second = .ok right) :
    ∃ tree, parse (first ++ " || " ++ second) = .ok tree ∧ tree.SelectsAs .union left right := by
  obtain ⟨q, derived, rfl⟩ := parse_eq_ok_iff.mp one
  obtain ⟨r, further, rfl⟩ := parse_eq_ok_iff.mp two
  obtain ⟨query, joined, marked⟩ := derived.joined further
  have text : (first ++ " || " ++ second).toList =
      first.toList ++ ' ' :: (SetRelation.union.operator.toList ++ ' ' :: second.toList) := by
    simp [SetRelation.operator]
  -- The blanks beside the operator go to the expressions next to it, which are read without them.
  have read : Query.ofTokens (Token.split (first ++ " || " ++ second).toList) = .ok query := by
    rw [text, Query.ofTokens_congr (Token.map_trimmed_split_operator .union first.toList second.toList)]
    exact joined.ofTokens
  refine ⟨ofQuery query, parse_eq_ok_iff.mpr ⟨query, Query.ofTokens_ok_iff.mp read, rfl⟩, ?_⟩
  refine .of_marks fun mode record => ?_
  rw [marks_ofQuery joined.compact, marks_ofQuery derived.compact, marks_ofQuery further.compact]
  exact marked mode record

/-- Texts of queries compose. Brackets around a text do not change its tree, an operator between two
bracketed texts joins their trees, and a union needs no brackets. What is selected is what both texts
select, or one of them. -/
theorem parse_composed (one : parse first = .ok left) (two : parse second = .ok right) :
    parse ("[" ++ first ++ "]") = .ok left ∧
    (∀ relation : SetRelation,
      parse ("[" ++ first ++ "] " ++ relation.operator ++ " [" ++ second ++ "]") =
          .ok (join relation left right) ∧
        (join relation left right).SelectsAs relation left right) ∧
    ∃ tree, parse (first ++ " || " ++ second) = .ok tree ∧ tree.SelectsAs .union left right :=
  ⟨parse_bracketed one, parse_joined one two, parse_union one two⟩

/-- A value that ends in a single bar. -/
def barred : QueryTree := ofPredicate ⟨.name, .none, .equal, "a|"⟩

/-- A union that is written without brackets. -/
def eitherCost : QueryTree :=
  join .union (ofPredicate ⟨.cmc, .none, .equal, "1"⟩) (ofPredicate ⟨.cmc, .none, .equal, "2"⟩)

/-- The bar at the end of the value does not become part of the operator behind it. -/
theorem parse_composed_barred :
    parse "name = a|" = .ok barred ∧ parse "cmc = 1 || cmc = 2" = .ok eitherCost ∧
    parse "[name = a|]" = .ok barred ∧
    parse "[name = a|] && [cmc = 1 || cmc = 2]" = .ok (join .intersect barred eitherCost) ∧
    ∃ tree, parse "name = a| || cmc = 1 || cmc = 2" = .ok tree ∧
      tree.SelectsAs .union barred eitherCost := by
  -- The value ends in a bar, which is no operator by itself.
  have one : parse "name = a|" = .ok barred := by decide +kernel
  have two : parse "cmc = 1 || cmc = 2" = .ok eitherCost := by decide +kernel
  obtain ⟨bracketed, joined, union⟩ := parse_composed one two
  exact ⟨one, two, bracketed, (joined .intersect).1, union⟩

end QueryTree

end Decksmith
