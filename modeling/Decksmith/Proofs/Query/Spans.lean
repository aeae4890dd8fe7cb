import Decksmith.Proofs.Query.Split
import Mathlib.Data.List.Chain

/-! A text is its spans with the brackets and operators between them, and splitting drops nothing but the spans that
are blank. -/

namespace Decksmith.Token

/-- Whether a token is a blank span, which may also be empty. -/
def isBlank : Token → Bool
  | expression text => text.all Text.isBlank
  | _ => false

/-- The tokens that are no blank spans. -/
def withoutBlanks (tokens : List Token) : List Token :=
  tokens.filter fun token => !token.isBlank

/-- Brackets and operators are never blank. -/
theorem withoutBlanks_structural {token : Token} (structural : ∀ words, token ≠ .expression words)
    (others : List Token) : withoutBlanks (token :: others) = token :: withoutBlanks others := by
  cases token with
  | expression words => exact absurd rfl (structural words)
  | _ => rfl

/-- A span that has been read in reverse is dropped just when it is blank. -/
theorem withoutBlanks_span (span : List Char) (others : List Token) :
    withoutBlanks (expression span.reverse :: others) = ofSpan span ++ withoutBlanks others := by
  unfold withoutBlanks ofSpan
  cases blank : span.all Text.isBlank <;> simp [isBlank, blank]

/-- Splits a text behind a span that has been read already, in reverse, and keeps all spans. -/
def splitFullyAfter (span : List Char) : List Char → List Token
  | [] => [expression span.reverse]
  | '[' :: rest => expression span.reverse :: opening :: splitFullyAfter [] rest
  | ']' :: rest => expression span.reverse :: closing :: splitFullyAfter [] rest
  | '&' :: '&' :: rest => expression span.reverse :: and :: splitFullyAfter [] rest
  | '|' :: '|' :: rest => expression span.reverse :: or :: splitFullyAfter [] rest
  | c :: rest => splitFullyAfter (c :: span) rest

/-- Splits a text at brackets and operators, and keeps all spans between them. -/
def splitFully (text : List Char) : List Token :=
  splitFullyAfter [] text

/-- Splitting drops the blank spans and nothing else. -/
theorem withoutBlanks_splitFullyAfter (span text : List Char) :
    withoutBlanks (splitFullyAfter span text) = splitAfter span text := by
  -- A bracket or an operator stays, and the span in front of it stays unless it is blank.
  have completed : ∀ {token : Token} (span : List Char) (others : List Token),
      (∀ words, token ≠ .expression words) →
      withoutBlanks (expression span.reverse :: token :: others) =
        ofSpan span ++ token :: withoutBlanks others := by
    intro token span others structural
    rw [withoutBlanks_span, withoutBlanks_structural structural]
  fun_induction splitFullyAfter span text with
  | case1 span =>
    -- Nothing stands behind the last span.
    rw [withoutBlanks_span, splitAfter]
    exact List.append_nil _
  | case2 span rest ih => rw [completed _ _ (by simp), splitAfter, ih]
  | case3 span rest ih => rw [completed _ _ (by simp), splitAfter, ih]
  | case4 span rest ih => rw [completed _ _ (by simp), splitAfter, ih]
  | case5 span rest ih => rw [completed _ _ (by simp), splitAfter, ih]
  | case6 span c rest opening closing both either ih =>
    -- The character joins the span in both ways of splitting.
    rw [ih, splitAfter]
    · exact opening
    · exact closing
    · exact both
    · exact either

/-- A text is plain also from back to front. -/
theorem plain_reverse {text : List Char} : Plain text.reverse ↔ Plain text := by
  -- An operator is the same from back to front.
  have operator : ∀ c : Char, [c, c] <:+: text.reverse ↔ [c, c] <:+: text := by
    intro c
    show [c, c].reverse <:+: text.reverse ↔ _
    exact List.reverse_infix
  simp only [Plain, List.mem_reverse, operator]

/-- A character in front of a plain text leaves it plain unless it is a bracket or makes an operator. -/
theorem plain_cons {c : Char} {text : List Char} :
    Plain (c :: text) ↔ (c ≠ '[' ∧ c ≠ ']') ∧
      (∀ operator, operator = '&' ∨ operator = '|' → c = operator → text.head? ≠ some operator) ∧
      Plain text := by
  simp only [Plain, List.forall_mem_cons, operator_infix_cons, not_or, not_and]
  constructor
  · rintro ⟨⟨bracket, brackets⟩, ⟨both, ands⟩, either, ors⟩
    refine ⟨bracket, ?_, brackets, ands, ors⟩
    -- There are two operators, and each has been excluded at the front of the text.
    rintro operator (rfl | rfl)
    · exact both
    · exact either
  · rintro ⟨bracket, apart, brackets, ands, ors⟩
    exact ⟨⟨bracket, brackets⟩, ⟨apart '&' (.inl rfl), ands⟩, apart '|' (.inr rfl), ors⟩

/-- What may stand behind a token when no span is left out: a bracket or an operator behind a span, where together
with the span no operator comes about any earlier, and a span behind a bracket or an operator. -/
inductive Adjoins : Token → Token → Prop where
  | structural {words : List Char} {token : Token} (structural : ∀ other, token ≠ .expression other)
      (earliest : Plain (words ++ token.spelling.dropLast)) : Adjoins (.expression words) token
  | span {token : Token} {words : List Char} (structural : ∀ other, token ≠ .expression other) :
      Adjoins token (.expression words)

/-- Tokens divide a text into plain spans and the brackets and operators between them. -/
structure Divides (tokens : List Token) (text : List Char) : Prop where
  whole : tokens.flatMap spelling = text
  plain : ∀ words, .expression words ∈ tokens → Plain words
  adjoining : tokens.IsChain Adjoins

/-- A span, in reverse, that is plain and makes no operator with what follows it. -/
structure Unbroken (span text : List Char) : Prop where
  plain : Plain span
  apart : ∀ operator, operator = '&' ∨ operator = '|' → span.head? = some operator →
    text.head? ≠ some operator

/-- A span that has not begun is unbroken. -/
theorem unbroken_nil (text : List Char) : Unbroken [] text where
  plain := ⟨by simp, by simp, by simp⟩
  apart := by simp

/-- An unbroken span is plain together with the next character, if that is no bracket. -/
theorem Unbroken.plain_cons {span rest : List Char} {c : Char} (unbroken : Unbroken span (c :: rest))
    (bracket : c ≠ '[' ∧ c ≠ ']') : Plain (c :: span) := by
  -- An operator of the two last characters would be one that the span makes with what follows it.
  refine Token.plain_cons.mpr ⟨bracket, fun operator kind same ends => ?_, unbroken.plain⟩
  exact unbroken.apart operator kind ends (by rw [List.head?_cons, same])

/-- A span is still unbroken behind a character that is no bracket and starts no operator. -/
theorem Unbroken.cons {span rest : List Char} {c : Char} (unbroken : Unbroken span (c :: rest))
    (bracket : c ≠ '[' ∧ c ≠ ']')
    (alone : ∀ operator, operator = '&' ∨ operator = '|' → c = operator →
      rest.head? ≠ some operator) : Unbroken (c :: span) rest where
  plain := unbroken.plain_cons bracket
  -- Where the span was unbroken before, the new character is the only place to look at.
  apart := fun operator kind ends => alone operator kind (by simpa using ends)

/-- No operator begins before the bracket or the operator that follows an unbroken span. -/
theorem Unbroken.earliest {span rest : List Char} {token : Token}
    (structural : ∀ words, token ≠ .expression words)
    (unbroken : Unbroken span (token.spelling ++ rest)) :
    Plain (span.reverse ++ token.spelling.dropLast) := by
  have plain := plain_reverse.mpr unbroken.plain
  cases token with
  -- A bracket consists of one character, so nothing of it comes together with the span.
  | opening => simpa [spelling] using plain
  | closing => simpa [spelling] using plain
  -- Of an operator the first character comes together with the span.
  | and => simpa [spelling] using plain_reverse.mpr (unbroken.plain_cons (by decide))
  | or => simpa [spelling] using plain_reverse.mpr (unbroken.plain_cons (by decide))
  | expression words => exact absurd rfl (structural words)

/-- If no span is left out, the first token is one. -/
theorem exists_splitFullyAfter (span text : List Char) :
    ∃ words tokens, splitFullyAfter span text = .expression words :: tokens := by
  fun_induction splitFullyAfter span text with
  | case6 span c rest opening closing both either ih => exact ih
  | _ => exact ⟨_, _, rfl⟩

/-- A bracket or an operator that follows an unbroken span divides a text, if the rest is divided. -/
theorem Unbroken.completed {span rest : List Char} (token : Token)
    (structural : ∀ words, token ≠ .expression words)
    (unbroken : Unbroken span (token.spelling ++ rest)) (later : Divides (splitFully rest) rest) :
    Divides (.expression span.reverse :: token :: splitFully rest)
      (span.reverse ++ (token.spelling ++ rest)) where
  whole := by rw [List.flatMap_cons, List.flatMap_cons, later.whole, spelling]
  plain := by
    intro words member
    -- The only spans are this one and those of the rest.
    rcases List.mem_cons.mp member with same | member
    · cases same
      exact plain_reverse.mpr unbroken.plain
    · rcases List.mem_cons.mp member with same | member
      · exact absurd same.symm (structural words)
      · exact later.plain words member
  adjoining := by
    -- The rest begins with a span, which may stand behind the bracket or the operator.
    obtain ⟨next, tokens, first⟩ := exists_splitFullyAfter [] rest
    have behind : (token :: splitFully rest).IsChain Adjoins := by
      have chain := later.adjoining
      rw [splitFully, first] at chain ⊢
      exact .cons_cons (.span structural) chain
    exact .cons_cons (.structural structural (unbroken.earliest structural)) behind

/-- Splitting behind an unbroken span divides the text together with that span, if no span is left out. -/
theorem Unbroken.divides {span text : List Char} (unbroken : Unbroken span text) :
    Divides (splitFullyAfter span text) (span.reverse ++ text) := by
  -- Behind a bracket or an operator a new span begins, and it is unbroken because there is nothing of it yet.
  fun_induction splitFullyAfter span text with
  | case1 span =>
    have plain := plain_reverse.mpr unbroken.plain
    exact ⟨by simp [spelling], by simpa using plain, .singleton _⟩
  | case2 span rest ih => exact unbroken.completed .opening (by simp) (ih (unbroken_nil rest))
  | case3 span rest ih => exact unbroken.completed .closing (by simp) (ih (unbroken_nil rest))
  | case4 span rest ih => exact unbroken.completed .and (by simp) (ih (unbroken_nil rest))
  | case5 span rest ih => exact unbroken.completed .or (by simp) (ih (unbroken_nil rest))
  | case6 span c rest opening closing both either ih =>
    -- The character is passed over, so it starts neither of the operators.
    have alone : ∀ operator, operator = '&' ∨ operator = '|' → c = operator →
        rest.head? ≠ some operator := by
      rintro operator (rfl | rfl) same first
      · exact not_doubled both ⟨same, first⟩
      · exact not_doubled either ⟨same, first⟩
    simpa using ih (unbroken.cons ⟨opening, closing⟩ alone)

/-- Two tokens of which at most one is an expression. -/
def Apart (first second : Token) : Prop :=
  (∀ words, first ≠ .expression words) ∨ ∀ words, second ≠ .expression words

/-- Tokens that adjoin one another have no two expressions side by side, also without the blank spans. -/
theorem isChain_apart {tokens : List Token} (adjoining : tokens.IsChain Adjoins) :
    (withoutBlanks tokens).IsChain Apart := by
  -- A span stays or not, and what is behind it is apart from it if that is a bracket or an operator.
  have cons : ∀ {token : Token} {others : List Token}, (withoutBlanks others).IsChain Apart →
      (∀ next ∈ (withoutBlanks others).head?, Apart token next) →
      (withoutBlanks (token :: others)).IsChain Apart := by
    intro token others chain apart
    unfold withoutBlanks at chain apart ⊢
    rw [List.filter_cons]
    split
    · exact chain.cons apart
    · exact chain
  induction adjoining with
  | nil => exact .nil
  | singleton token => exact cons .nil (by simp [withoutBlanks])
  | @cons_cons first second others adjoins _ ih =>
    refine cons ih fun next member => ?_
    cases adjoins with
    | structural structural _ =>
      -- The second token stays, so it is the one that comes next.
      rw [withoutBlanks_structural structural] at member
      obtain rfl : second = next := by simpa using member
      exact .inr structural
    | span structural => exact .inl structural

end Decksmith.Token
