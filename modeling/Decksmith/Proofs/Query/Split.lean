import Decksmith.Query.Token
import Mathlib.Data.List.Infix

/-! Splitting a text: brackets end a span wherever they stand, a plain span stays whole, and every bracket and
operator that is found stands in the text. -/

namespace Decksmith.Token

/-- The characters of a token. -/
def spelling : Token → List Char
  | opening => ['[']
  | closing => [']']
  | and => ['&', '&']
  | or => ['|', '|']
  | expression text => text

/-- A text without brackets and without operators. -/
def Plain (text : List Char) : Prop :=
  (∀ c ∈ text, c ≠ '[' ∧ c ≠ ']') ∧ ¬ ['&', '&'] <:+: text ∧ ¬ ['|', '|'] <:+: text

instance (text : List Char) : Decidable (Plain text) :=
  @instDecidableAnd _ _ (List.decidableBAll (fun c => c ≠ '[' ∧ c ≠ ']') text) inferInstance

/-- An operator occurs at the front of a text or further on. -/
theorem operator_infix_cons {operator c : Char} {rest : List Char} :
    [operator, operator] <:+: c :: rest ↔
      (c = operator ∧ rest.head? = some operator) ∨ [operator, operator] <:+: rest := by
  rw [List.infix_cons_iff, List.cons_prefix_cons]
  -- At the front the second character of the operator is the next one of the text.
  cases rest with
  | nil => simp
  | cons next others => simp [List.cons_prefix_cons, eq_comm]

/-- A character does not start an operator if the rest of the text does not go on with it. -/
theorem not_doubled {operator c : Char} {rest : List Char}
    (apart : ∀ others, c = operator → rest = operator :: others → False) :
    ¬ (c = operator ∧ rest.head? = some operator) := by
  rintro ⟨same, first⟩
  obtain ⟨others, rfl⟩ := List.head?_eq_some_iff.mp first
  exact apart others same rfl

/-- A character that is no bracket and starts no operator belongs to the span. -/
theorem splitAfter_cons (span : List Char) {c : Char} {rest : List Char} (opening : c ≠ '[')
    (closing : c ≠ ']') (both : ¬ (c = '&' ∧ rest.head? = some '&'))
    (either : ¬ (c = '|' ∧ rest.head? = some '|')) :
    splitAfter span (c :: rest) = splitAfter (c :: span) rest := by
  rw [splitAfter]
  · exact opening
  · exact closing
  -- An operator would need the same character once more.
  · rintro others rfl rfl
    exact both ⟨rfl, rfl⟩
  · rintro others rfl rfl
    exact either ⟨rfl, rfl⟩

/-- A character that is no bracket and no part of an operator. -/
def isInert (c : Char) : Bool :=
  c != '[' && c != ']' && c != '&' && c != '|'

/-- Inert characters in front of a text join its first span. -/
theorem splitAfter_inert (span rest : List Char) {front : List Char}
    (inert : front.all isInert = true) :
    splitAfter span (front ++ rest) = splitAfter (front.reverse ++ span) rest := by
  induction front generalizing span with
  | nil => rfl
  | cons c others ih =>
    obtain ⟨here, others⟩ := Bool.and_eq_true_iff.mp inert
    -- An inert character is none of the four that could end a span.
    obtain ⟨⟨⟨opening, closing⟩, both⟩, either⟩ :
        ((c ≠ '[' ∧ c ≠ ']') ∧ c ≠ '&') ∧ c ≠ '|' := by simpa [isInert] using here
    rw [List.cons_append, splitAfter_cons span opening closing (fun same => both same.1)
      (fun same => either same.1), ih (c :: span) others]
    simp

/-- A text is cut at its end whatever stands behind it, but for half an operator that may be completed there. -/
theorem exists_cut_pending (span text : List Char) : ∃ tokens last pending,
    (pending = [] ∨ pending = ['&'] ∨ pending = ['|']) ∧
      ∀ rest, splitAfter span (text ++ rest) = tokens ++ splitAfter last (pending ++ rest) := by
  fun_induction splitAfter span text with
  | case1 span => exact ⟨[], span, [], .inl rfl, fun rest => rfl⟩
  -- A bracket or an operator is split off, and so are the tokens behind it.
  | case2 span text ih =>
    obtain ⟨tokens, last, pending, half, cut⟩ := ih
    exact ⟨ofSpan span ++ .opening :: tokens, last, pending, half, fun rest => by
      simp [splitAfter, cut rest]⟩
  | case3 span text ih =>
    obtain ⟨tokens, last, pending, half, cut⟩ := ih
    exact ⟨ofSpan span ++ .closing :: tokens, last, pending, half, fun rest => by
      simp [splitAfter, cut rest]⟩
  | case4 span text ih =>
    obtain ⟨tokens, last, pending, half, cut⟩ := ih
    exact ⟨ofSpan span ++ .and :: tokens, last, pending, half, fun rest => by
      simp [splitAfter, cut rest]⟩
  | case5 span text ih =>
    obtain ⟨tokens, last, pending, half, cut⟩ := ih
    exact ⟨ofSpan span ++ .or :: tokens, last, pending, half, fun rest => by
      simp [splitAfter, cut rest]⟩
  | case6 span c text opening closing both either ih =>
    by_cases half : text = [] ∧ (c = '&' ∨ c = '|')
    · obtain ⟨rfl, ends⟩ := half
      exact ⟨[], span, [c], .inr (by simpa using ends), fun rest => rfl⟩
    · obtain ⟨tokens, last, pending, kind, cut⟩ := ih
      refine ⟨tokens, last, pending, kind, fun rest => ?_⟩
      -- The character is no half of an operator at the end, and none in front of the rest of the text.
      have seam : ∀ operator, (operator = '&' ∨ operator = '|') →
          (∀ others, c = operator → text = operator :: others → False) →
          ¬ (c = operator ∧ (text ++ rest).head? = some operator) := by
        rintro operator operates alone ⟨rfl, first⟩
        cases text with
        | nil => exact half ⟨rfl, operates⟩
        | cons second others => exact alone others rfl (by simpa using first)
      rw [List.cons_append, splitAfter_cons span opening closing (seam '&' (.inl rfl) both)
        (seam '|' (.inr rfl) either), cut rest]

/-- Where a text is cut, some tokens have been split off, and the last span goes on with what follows, unless
that might continue an operator. -/
def Cut (span text : List Char) (tokens : List Token) (last : List Char) : Prop :=
  ∀ rest : List Char, (∀ c ∈ rest.head?, c ≠ '&' ∧ c ≠ '|') →
    splitAfter span (text ++ rest) = tokens ++ splitAfter last rest

/-- Every text can be cut at its end. -/
theorem exists_cut (span text : List Char) : ∃ tokens last, Cut span text tokens last := by
  obtain ⟨tokens, last, pending, half, cut⟩ := exists_cut_pending span text
  refine ⟨tokens, pending.reverse ++ last, fun rest apart => ?_⟩
  rw [cut rest]
  -- Half an operator joins the last span, because what follows does not complete it.
  rcases half with rfl | rfl | rfl
  · rfl
  · rw [List.singleton_append, splitAfter_cons last (by decide) (by decide)
      (fun same => (apart '&' same.2).1 rfl) (by simp)]
    rfl
  · rw [List.singleton_append, splitAfter_cons last (by decide) (by decide) (by simp)
      (fun same => (apart '|' same.2).2 rfl)]
    rfl

/-- A text as a whole is split into what has been split off at its end, and the last span. -/
theorem Cut.whole {span text last : List Char} {tokens : List Token} (cut : Cut span text tokens last) :
    splitAfter span text = tokens ++ ofSpan last := by
  have whole := cut [] (by simp)
  rwa [List.append_nil] at whole

/-- What stands behind a text is split on its own if it starts with a bracket. -/
theorem splitAfter_append (span text rest : List Char) {bracket : Char} {token : Token}
    (kind : bracket = '[' ∧ token = .opening ∨ bracket = ']' ∧ token = .closing) :
    splitAfter span (text ++ bracket :: rest) =
      splitAfter span text ++ token :: splitAfter [] rest := by
  obtain ⟨tokens, last, cut⟩ := exists_cut span text
  -- A bracket is part of no operator, and it completes the last span.
  obtain ⟨rfl, rfl⟩ | ⟨rfl, rfl⟩ := kind
  · rw [cut _ (by simp), cut.whole]
    simp [splitAfter]
  · rw [cut _ (by simp), cut.whole]
    simp [splitAfter]

/-- A plain text stays whole. -/
theorem splitAfter_plain (span : List Char) {text : List Char} (plain : Plain text) :
    splitAfter span text = ofSpan (text.reverse ++ span) := by
  induction text generalizing span with
  | nil => rfl
  | cons c rest ih =>
    -- The first character ends no span, whatever follows it.
    obtain ⟨brackets, both, either⟩ := plain
    obtain ⟨bracket, others⟩ := List.forall_mem_cons.mp brackets
    rw [operator_infix_cons, not_or] at both either
    rw [splitAfter_cons span bracket.1 bracket.2 both.1 either.1,
      ih (c :: span) ⟨others, both.2, either.2⟩]
    simp

/-- A text that gives expressions only is plain. -/
theorem plain_of_splitAfter {span text : List Char}
    (expressions : ∀ token ∈ splitAfter span text, ∃ words, token = .expression words) :
    Plain text := by
  fun_induction splitAfter span text with
  | case1 span => exact ⟨by simp, by simp, by simp⟩
  | case2 span text ih => simpa using expressions .opening (by simp)
  | case3 span text ih => simpa using expressions .closing (by simp)
  | case4 span text ih => simpa using expressions .and (by simp)
  | case5 span text ih => simpa using expressions .or (by simp)
  | case6 span c text opening closing both either ih =>
    obtain ⟨brackets, ands, ors⟩ := ih expressions
    -- An operator would stand at the front or further on, and neither is the case.
    refine ⟨List.forall_mem_cons.mpr ⟨⟨opening, closing⟩, brackets⟩, ?_, ?_⟩
    · rw [operator_infix_cons, not_or]
      exact ⟨not_doubled both, ands⟩
    · rw [operator_infix_cons, not_or]
      exact ⟨not_doubled either, ors⟩

/-- A span that is not blank becomes the first expression. -/
theorem splitAfter_expression {span : List Char} (text : List Char)
    (some : span.all Text.isBlank = false) :
    ∃ words rest, splitAfter span text = .expression words :: rest := by
  -- Whatever ends the span, it is turned into a token then, and until then it only grows.
  fun_induction splitAfter span text with
  | case1 span => simp [ofSpan, some]
  | case2 span text ih => simp [ofSpan, some]
  | case3 span text ih => simp [ofSpan, some]
  | case4 span text ih => simp [ofSpan, some]
  | case5 span text ih => simp [ofSpan, some]
  | case6 span c text opening closing both either ih => exact ih (by simp [some])

/-- A bracket or an operator completes the span in front of it. -/
theorem splitAfter_spelling {token : Token} (structural : ∀ words, token ≠ .expression words)
    (span rest : List Char) :
    splitAfter span (token.spelling ++ rest) = ofSpan span ++ token :: split rest := by
  cases token with
  | expression words => exact absurd rfl (structural words)
  | _ => rfl

/-- The token of a span is an expression. -/
theorem not_mem_ofSpan {token : Token} (structural : ∀ words, token ≠ .expression words)
    (span : List Char) : token ∉ ofSpan span := by
  -- A blank span gives no token, and any other one gives an expression.
  unfold ofSpan
  split
  · simp
  · simpa using structural _

/-- A bracket or an operator among the tokens is the one that completes the first span, or one of those behind it. -/
theorem completes_or_behind {token first : Token} (structural : ∀ words, token ≠ .expression words)
    {span : List Char} {later before after : List Token}
    (tokens : ofSpan span ++ first :: later = before ++ token :: after) :
    (before = ofSpan span ∧ token = first ∧ after = later) ∨
      ∃ between, before = ofSpan span ++ first :: between ∧ later = between ++ token :: after := by
  rcases List.append_eq_append_iff.mp tokens with ⟨between, rfl, parts⟩ | ⟨more, whole, parts⟩
  · cases between with
    | nil =>
      obtain ⟨rfl, rfl⟩ := List.cons.inj parts
      exact .inl ⟨List.append_nil _, rfl, rfl⟩
    | cons next between =>
      obtain ⟨rfl, behind⟩ := List.cons.inj parts
      exact .inr ⟨between, rfl, behind⟩
  · cases more with
    | nil =>
      obtain ⟨rfl, rfl⟩ := List.cons.inj parts
      exact .inl ⟨by simp [whole], rfl, rfl⟩
    | cons next more =>
      -- The span itself gives no brackets and no operators.
      obtain ⟨rfl, -⟩ := List.cons.inj parts
      exact absurd (by simp [whole]) (not_mem_ofSpan structural span)

/-- Every bracket and every operator among the tokens stands somewhere in the text, and the other tokens are those of
the text in front of it and behind it. -/
theorem exists_spelling {token : Token} (structural : ∀ words, token ≠ .expression words)
    {span text : List Char} {before after : List Token}
    (tokens : splitAfter span text = before ++ token :: after) :
    ∃ front back, text = front ++ (token.spelling ++ back) ∧ splitAfter span front = before ∧
      split back = after := by
  -- It is the first bracket or operator of the text, or one of those behind it.
  have parted : ∀ (first : Token) {span rest : List Char} {before : List Token},
      (∀ words, first ≠ .expression words) →
      (∀ {before : List Token}, split rest = before ++ token :: after →
        ∃ front back, rest = front ++ (token.spelling ++ back) ∧ split front = before ∧
          split back = after) →
      ofSpan span ++ first :: split rest = before ++ token :: after →
      ∃ front back, first.spelling ++ rest = front ++ (token.spelling ++ back) ∧
        splitAfter span front = before ∧ split back = after := by
    intro first span rest before other ih tokens
    rcases completes_or_behind structural tokens with ⟨rfl, rfl, rfl⟩ | ⟨between, rfl, within⟩
    · exact ⟨[], rest, rfl, rfl, rfl⟩
    · obtain ⟨front, back, rfl, found, behind⟩ := ih within
      exact ⟨first.spelling ++ front, back, by simp, by rw [splitAfter_spelling other, found], behind⟩
  fun_induction splitAfter span text generalizing before with
  | case1 span => exact absurd (by simp [tokens]) (not_mem_ofSpan structural span)
  | case2 span rest ih => exact parted .opening (by simp) ih tokens
  | case3 span rest ih => exact parted .closing (by simp) ih tokens
  | case4 span rest ih => exact parted .and (by simp) ih tokens
  | case5 span rest ih => exact parted .or (by simp) ih tokens
  | case6 span c rest opening closing both either ih =>
    obtain ⟨front, back, rfl, found, behind⟩ := ih tokens
    refine ⟨c :: front, back, rfl, ?_, behind⟩
    rw [← found, splitAfter]
    · exact opening
    · exact closing
    -- The text in front starts with an operator only if the whole text does.
    · rintro others same rfl
      exact both (others ++ (token.spelling ++ back)) same rfl
    · rintro others same rfl
      exact either (others ++ (token.spelling ++ back)) same rfl

end Decksmith.Token
