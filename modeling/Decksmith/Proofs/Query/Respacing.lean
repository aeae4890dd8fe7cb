import Decksmith.Proofs.Query.Lexemes
import Decksmith.Proofs.Query.Scan
import Decksmith.Proofs.Query.Split

/-! The blanks of a text do not matter to the query that it spells: neither which ones they are and how many, nor
whether there are any beside brackets and operators. -/

namespace Decksmith

/-- The fault without the part of the text that too few tokens were found in. -/
def SyntaxError.unquoted : SyntaxError → SyntaxError
  | .tooFewTokens _ found => .tooFewTokens "" found
  | fault => fault

/-- One or more blanks. -/
structure Text.Gap (gap : List Char) : Prop where
  some : gap ≠ []
  blank : gap.all isBlank = true

namespace Token

/-- A bracket or an operator stands between two parts of a text if splitting finds it there: the tokens of the text
are those of the parts with this one between them. -/
structure Between (front : List Char) (token : Token) (back : List Char) : Prop where
  structural : ∀ words, token ≠ .expression words
  found : split (front ++ (token.spelling ++ back)) = split front ++ token :: split back

/-- One change of the blanks in a text: some of them are replaced by others, or some are put in front of a bracket
or an operator, or behind it. -/
inductive Respaced : List Char → List Char → Prop where
  | replaced (front back : List Char) {gap other : List Char} (before : Text.Gap gap)
      (after : Text.Gap other) : Respaced (front ++ (gap ++ back)) (front ++ (other ++ back))
  | inFront {front back gap : List Char} {token : Token} (between : Between front token back)
      (blank : Text.Gap gap) : Respaced (front ++ (token.spelling ++ back))
        (front ++ (gap ++ (token.spelling ++ back)))
  | behind {front back gap : List Char} {token : Token} (between : Between front token back)
      (blank : Text.Gap gap) : Respaced (front ++ (token.spelling ++ back))
        (front ++ (token.spelling ++ (gap ++ back)))

/-- Two tokens that are the same bracket or operator, or expressions with the same lexemes. -/
inductive Alike : Token → Token → Prop where
  | structural {token : Token} (structural : ∀ words, token ≠ .expression words) : Alike token token
  | expression {text other : List Char} (same : Predicate.lexemes text = Predicate.lexemes other) :
      Alike (.expression text) (.expression other)

/-- A token is like itself. -/
theorem Alike.refl (token : Token) : Alike token token := by
  cases token with
  | expression text => exact .expression rfl
  | _ => exact .structural (by simp)

/-- So are tokens one by one. -/
theorem alike_refl (tokens : List Token) : List.Forall₂ Alike tokens tokens :=
  have : Std.Refl Alike := ⟨Alike.refl⟩
  List.forall₂_refl tokens

/-- Two spans, in reverse, that give the same lexemes together with whatever follows them. -/
def SameLexemes (span other : List Char) : Prop :=
  ∀ more, Predicate.lexemes (span.reverse ++ more) = Predicate.lexemes (other.reverse ++ more)

/-- A span is blank just when it has no lexemes. -/
theorem all_isBlank_iff (span : List Char) :
    span.all Text.isBlank = true ↔ Predicate.lexemes span.reverse = [] := by
  constructor
  -- Blanks have no lexemes.
  · intro blank
    exact Predicate.lexemes_blank (by rwa [List.all_reverse])
  -- The lexemes make up what is no blank, so without them there is nothing else.
  · intro none
    have nothing := Predicate.flatten_lexemes span.reverse
    rw [none, List.flatten_nil, Text.withoutBlanks, eq_comm, List.filter_eq_nil_iff] at nothing
    simpa using nothing

/-- Spans with the same lexemes are expressions that are alike, or both are none. -/
theorem ofSpan_alike {span other : List Char}
    (same : Predicate.lexemes span.reverse = Predicate.lexemes other.reverse) :
    List.Forall₂ Alike (ofSpan span) (ofSpan other) := by
  -- Whether a span is dropped can be told from its lexemes.
  have blank : span.all Text.isBlank = other.all Text.isBlank := by
    rw [Bool.eq_iff_iff, all_isBlank_iff, all_isBlank_iff, same]
  unfold ofSpan
  rw [blank]
  split
  · exact .nil
  · exact .cons (.expression same) .nil

/-- Behind spans with the same lexemes a text is split in the same way. -/
theorem SameLexemes.splitAfter {span other : List Char} (same : SameLexemes span other)
    (text : List Char) : List.Forall₂ Alike (splitAfter span text) (splitAfter other text) := by
  have whole : ∀ {span other : List Char}, SameLexemes span other →
      List.Forall₂ Alike (ofSpan span) (ofSpan other) := fun same =>
    ofSpan_alike (by simpa using same [])
  -- A bracket or an operator completes both spans at the same place.
  have completed : ∀ {span other : List Char} {token : Token} (rest : List Char),
      SameLexemes span other → List.Forall₂ Alike (ofSpan span ++ token :: Token.splitAfter [] rest)
        (ofSpan other ++ token :: Token.splitAfter [] rest) := fun rest same =>
    List.rel_append (whole same) (alike_refl (_ :: Token.splitAfter [] rest))
  fun_induction Token.splitAfter span text generalizing other with
  | case1 span => exact whole same
  | case2 span rest => exact completed rest same
  | case3 span rest => exact completed rest same
  | case4 span rest => exact completed rest same
  | case5 span rest => exact completed rest same
  | case6 span c rest opening closing both either ih =>
    -- Both spans go on with the same character.
    have longer : SameLexemes (c :: span) (c :: other) := fun more => by
      simpa using same (c :: more)
    rw [Token.splitAfter]
    · exact ih longer
    · exact opening
    · exact closing
    · exact both
    · exact either

/-- Every bracket and every operator that splitting finds stands between two parts of the text. -/
theorem exists_between {token : Token} (structural : ∀ words, token ≠ .expression words)
    {text : List Char} {before after : List Token} (tokens : split text = before ++ token :: after) :
    ∃ front back, text = front ++ (token.spelling ++ back) ∧ Between front token back := by
  obtain ⟨front, back, rfl, found, behind⟩ := exists_spelling structural tokens
  exact ⟨front, back, rfl, structural, by rw [tokens, split, found, behind]⟩

/-- A gap holds no brackets and no operators. -/
theorem inert_of_gap {gap : List Char} (blank : Text.Gap gap) : gap.all isInert = true := by
  -- No bracket and no part of an operator is a blank.
  have general : ∀ c, Text.isBlank c = true → isInert c = true := by
    intro c blank
    by_contra differs
    obtain rfl | rfl | rfl | rfl : c = '[' ∨ c = ']' ∨ c = '&' ∨ c = '|' := by
      simp only [isInert, Bool.and_eq_true, bne_iff_ne] at differs
      tauto
    all_goals simp [Text.isBlank] at blank
  exact List.all_eq_true.mpr fun c member => general c (List.all_eq_true.mp blank.blank c member)

/-- A text is cut by a gap behind it: its last span takes the gap in and goes on. -/
theorem exists_cut_gap (front : List Char) :
    ∃ tokens last, split front = tokens ++ ofSpan last ∧ ∀ gap rest, Text.Gap gap →
      split (front ++ (gap ++ rest)) = tokens ++ splitAfter (gap.reverse ++ last) rest := by
  obtain ⟨tokens, last, cut⟩ := exists_cut [] front
  refine ⟨tokens, last, cut.whole, fun gap rest blank => ?_⟩
  have inert := inert_of_gap blank
  -- No blank goes on with an operator.
  have apart : ∀ c ∈ (gap ++ rest).head?, c ≠ '&' ∧ c ≠ '|' := by
    intro c first
    rw [List.head?_append_of_ne_nil _ blank.some] at first
    have here := List.all_eq_true.mp inert c (List.mem_of_mem_head? first)
    simp only [isInert, Bool.and_eq_true, bne_iff_ne] at here
    exact ⟨here.1.2, here.2⟩
  rw [split, cut _ apart, splitAfter_inert _ _ inert]

/-- Two gaps keep what is in front of them apart from what is behind them in the same way. -/
theorem sameLexemes_gap {gap other : List Char} (before : Text.Gap gap) (after : Text.Gap other)
    (span : List Char) : SameLexemes (gap.reverse ++ span) (other.reverse ++ span) := by
  intro more
  simp only [List.reverse_append, List.reverse_reverse, List.append_assoc]
  rw [Predicate.lexemes_gap _ before.some before.blank, Predicate.lexemes_gap _ after.some after.blank]

/-- Half an operator is no blank, so it is part of an expression. -/
theorem ofSpan_half {operator : Char} (half : operator = '&' ∨ operator = '|') (last : List Char) :
    ofSpan (operator :: last) = [.expression (last.reverse ++ [operator])] := by
  have solid : Text.isBlank operator = false := by
    rcases half with rfl | rfl <;> decide
  simp [ofSpan, solid]

/-- An operator that has been found behind a text is found there whatever follows it. -/
theorem split_operator_append {operator : Char} {token : Token}
    (kind : operator = '&' ∧ token = .and ∨ operator = '|' ∧ token = .or) {front back : List Char}
    (found : split (front ++ operator :: operator :: back) = split front ++ token :: split back)
    (rest : List Char) :
    split (front ++ operator :: operator :: rest) = split front ++ token :: split rest := by
  have here : ∀ span rest, splitAfter span (operator :: operator :: rest) =
      ofSpan span ++ token :: split rest := by
    rcases kind with ⟨rfl, rfl⟩ | ⟨rfl, rfl⟩ <;> exact fun _ _ => rfl
  -- The text in front is cut as far as is certain, and half an operator may be left over.
  obtain ⟨tokens, last, pending, half, cut⟩ := exists_cut_pending [] front
  have whole : split front = tokens ++ splitAfter last pending := by simpa [split] using cut []
  -- What is certain stays in front whatever follows.
  have behind : ∀ rest, split (front ++ operator :: operator :: rest) =
      tokens ++ splitAfter last (pending ++ operator :: operator :: rest) := fun rest => cut _
  by_cases same : pending = [operator]
  · -- The operator would begin in front of the place where it has been found.
    exfalso
    have halves : operator = '&' ∨ operator = '|' := kind.imp And.left And.left
    have alone : splitAfter last [operator] = ofSpan (operator :: last) := by
      rcases kind with ⟨rfl, rfl⟩ | ⟨rfl, rfl⟩ <;> rfl
    have earlier : splitAfter last ([operator] ++ operator :: operator :: back) =
        ofSpan last ++ token :: split (operator :: back) := here last (operator :: back)
    rw [behind, whole, same, alone, earlier, ofSpan_half halves, List.append_assoc,
      List.append_cancel_left_eq, ofSpan] at found
    split at found
    · obtain rfl : token = .expression (last.reverse ++ [operator]) := by simpa using congrArg List.head? found
      simp at kind
    · simp at found
  · -- What is left of the text in front is a span of its own.
    have apart : ∀ rest, splitAfter last (pending ++ operator :: operator :: rest) =
        splitAfter last pending ++ token :: split rest := by
      intro rest
      rcases half with rfl | rfl | rfl
      · exact here last rest
      · rcases kind with ⟨rfl, rfl⟩ | ⟨rfl, rfl⟩
        · exact absurd rfl same
        · rfl
      · rcases kind with ⟨rfl, rfl⟩ | ⟨rfl, rfl⟩
        · rfl
        · exact absurd rfl same
    rw [behind, apart, whole, List.append_assoc]

/-- Where a bracket or an operator has been found, it is found whatever stands behind it. -/
theorem Between.split_append {front back : List Char} {token : Token} (between : Between front token back)
    (rest : List Char) :
    split (front ++ (token.spelling ++ rest)) = split front ++ token :: split rest := by
  -- A bracket ends the text in front by itself, and an operator does so where it was found.
  obtain ⟨structural, found⟩ := between
  cases token with
  | opening => exact splitAfter_append [] front rest (.inl ⟨rfl, rfl⟩)
  | closing => exact splitAfter_append [] front rest (.inr ⟨rfl, rfl⟩)
  | and => exact split_operator_append (.inl ⟨rfl, rfl⟩) found rest
  | or => exact split_operator_append (.inr ⟨rfl, rfl⟩) found rest
  | expression words => exact absurd rfl (structural words)

/-- Changing the blanks of a text changes its tokens to tokens that are alike. -/
theorem Respaced.alike {text other : List Char} (respaced : Respaced text other) :
    List.Forall₂ Alike (split text) (split other) := by
  cases respaced with
  | @replaced front back gap other before after =>
    obtain ⟨tokens, last, -, cut⟩ := exists_cut_gap front
    rw [cut _ _ before, cut _ _ after]
    exact List.rel_append (alike_refl tokens) ((sameLexemes_gap before after last).splitAfter back)
  | @inFront front back gap token between blank =>
    obtain ⟨tokens, last, whole, cut⟩ := exists_cut_gap front
    rw [between.found, cut _ _ blank, splitAfter_spelling between.structural, whole, List.append_assoc]
    -- The gap ends the last span in front, and adds no lexemes to it.
    have same : Predicate.lexemes last.reverse = Predicate.lexemes (gap.reverse ++ last).reverse := by
      rw [List.reverse_append, List.reverse_reverse, Predicate.lexemes_append_blank _ blank.blank]
    exact List.rel_append (alike_refl tokens) (List.rel_append (ofSpan_alike same) (alike_refl _))
  | @behind front back gap token between blank =>
    rw [between.found, between.split_append]
    -- The gap starts the first span behind, and adds no lexemes to it either.
    have same : SameLexemes [] (gap.reverse ++ []) := fun more => by
      have apart := Predicate.lexemes_gap [] blank.some blank.blank more
      have none : Predicate.lexemes [] = [] := rfl
      simpa [none] using apart.symm
    have later : List.Forall₂ Alike (split back) (split (gap ++ back)) := by
      rw [split, split, splitAfter_inert _ _ (inert_of_gap blank)]
      exact same.splitAfter back
    exact List.rel_append (alike_refl _) (.cons (.refl token) later)

end Token

/-- Expressions with the same lexemes are the same predicate, or the same fault. -/
theorem Predicate.ofChars_alike {text other : List Char} (same : lexemes text = lexemes other) :
    (ofChars text).mapError SyntaxError.unquoted = (ofChars other).mapError SyntaxError.unquoted := by
  unfold ofChars
  rw [same]
  -- Only the fault that there are too few lexemes looks at the text itself.
  match lexemes other with
  | [] => rfl
  | [_] => rfl
  | [_, _] => rfl
  | field :: second :: third :: others =>
    dsimp only
    cases Vocabulary.field? field with
    | none => rfl
    | some key => cases Vocabulary.modifier? second <;> cases others <;> rfl

namespace Query

/-- Tokens that are alike are read in the same way, whatever is due. -/
theorem resume_alike {tokens others : List Token} (alike : List.Forall₂ Token.Alike tokens others)
    (due : Due) (enclosing : List Frame) (frame : Frame) (position : Nat) (after : Bool) :
    (resume due enclosing frame position after tokens).mapError SyntaxError.unquoted =
      (resume due enclosing frame position after others).mapError SyntaxError.unquoted := by
  -- The induction is on the tokens; what is due, and what has been read, changes on the way.
  induction alike generalizing due enclosing frame position after with
  | nil => rfl
  | @cons token _ tokens others first _ ih =>
    cases first with
    | @expression text other same =>
      cases due with
      | operator => rfl
      | operand =>
        have read := Predicate.ofChars_alike same
        simp only [resume, readOperand]
        cases one : Predicate.ofChars text with
        | error fault =>
          cases two : Predicate.ofChars other with
          | error other =>
            have same : fault.unquoted = other.unquoted := by
              simpa [one, two, Except.mapError] using read
            simp only [Except.mapError, same]
          | ok p => simp [one, two, Except.mapError] at read
        | ok p =>
          cases two : Predicate.ofChars other with
          | error fault => simp [one, two, Except.mapError] at read
          | ok q =>
            obtain rfl : p = q := by simpa [one, two, Except.mapError] using read
            exact ih .operator _ _ _ false
    | structural structural =>
      cases due with
      | operand =>
        cases token with
        | opening => exact ih .operand _ _ _ true
        | expression text => exact absurd rfl (structural text)
        | _ => rfl
      | operator =>
        cases token with
        | and => exact ih .operand _ _ _ false
        | or => exact ih .operand _ _ _ false
        | closing =>
          cases enclosing with
          | nil => rfl
          | cons outer enclosing => exact ih .operator _ _ _ false
        | _ => rfl

/-- Texts whose tokens are alike are read in the same way. -/
theorem ofTokens_alike {tokens others : List Token} (alike : List.Forall₂ Token.Alike tokens others) :
    (ofTokens tokens).mapError SyntaxError.unquoted =
      (ofTokens others).mapError SyntaxError.unquoted := by
  cases alike with
  | nil => rfl
  | cons first rest => exact resume_alike (.cons first rest) .operand [] .empty 0 false

end Query

namespace QueryTree

/-- Changing the blanks of a text, once or many times, changes neither the tree that it spells nor the fault that is
found in it, up to the text that such a fault quotes. -/
theorem parse_respaced {text other : String}
    (respaced : Relation.ReflTransGen Token.Respaced text.toList other.toList) :
    (parse text).mapError SyntaxError.unquoted = (parse other).mapError SyntaxError.unquoted := by
  have same : ∀ {text other : List Char}, Relation.ReflTransGen Token.Respaced text other →
      (Query.ofTokens (Token.split text)).mapError SyntaxError.unquoted =
        (Query.ofTokens (Token.split other)).mapError SyntaxError.unquoted := by
    intro text other respaced
    induction respaced with
    | refl => rfl
    | tail _ step ih => exact ih.trans (Query.ofTokens_alike step.alike)
  -- Laying a query out as a tree adds no fault.
  have layout : ∀ text : String, (parse text).mapError SyntaxError.unquoted =
      ((Query.ofTokens (Token.split text.toList)).mapError SyntaxError.unquoted).map ofQuery := by
    intro text
    unfold parse Query.parse
    cases Query.ofTokens (Token.split text.toList) <;> rfl
  rw [layout, layout, same respaced]

/-- Three ampersands in a row, of which the first two are an operator. -/
def tight : String := "name = a&&&cmc = 1"

/-- The same text with another blank behind its first word, and with blanks around the operator. -/
def loose : String := "name\u3000= a && &cmc = 1"

/-- The third ampersand is taken for a field in both texts. -/
theorem parse_respaced_ampersands :
    Relation.ReflTransGen Token.Respaced tight.toList loose.toList ∧
      parse tight = .error (.unknownField "&") ∧
      (parse loose).mapError SyntaxError.unquoted = .error (.unknownField "&") := by
  -- Two kinds of gap are put in, at three places.
  have space : Text.Gap [' '] := ⟨by decide, by decide⟩
  have wide : Text.Gap ['\u3000'] := ⟨by decide, by decide⟩
  have first : Token.Respaced tight.toList "name\u3000= a&&&cmc = 1".toList :=
    .replaced "name".toList "= a&&&cmc = 1".toList space wide
  have front : Token.Between "name\u3000= a".toList .and "&cmc = 1".toList := ⟨by simp, by decide⟩
  have second : Token.Respaced "name\u3000= a&&&cmc = 1".toList "name\u3000= a &&&cmc = 1".toList :=
    .inFront front space
  have back : Token.Between "name\u3000= a ".toList .and "&cmc = 1".toList := ⟨by simp, by decide⟩
  have third : Token.Respaced "name\u3000= a &&&cmc = 1".toList loose.toList := .behind back space
  have respaced : Relation.ReflTransGen Token.Respaced tight.toList loose.toList :=
    ((Relation.ReflTransGen.single first).tail second).tail third
  have unknown : parse tight = .error (.unknownField "&") := by rfl
  refine ⟨respaced, unknown, ?_⟩
  rw [← parse_respaced respaced, unknown]
  rfl

end QueryTree

end Decksmith
