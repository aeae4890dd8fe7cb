import Decksmith.Proofs.Query.RoundTrip

/-! The canonical text of a tree that was read from a text: reading drops blanks, and what they have kept apart
may form an operator in the canonical text. -/

namespace Decksmith

namespace Token

/-- The expressions of a text hold no brackets. -/
theorem bracketless_of_mem_splitAfter {span text words : List Char}
    (inside : ∀ c ∈ span, c ≠ '[' ∧ c ≠ ']') (member : .expression words ∈ splitAfter span text) :
    ∀ c ∈ words, c ≠ '[' ∧ c ≠ ']' := by
  -- The expression of a span has the characters of the span.
  have here : ∀ span : List Char, (∀ c ∈ span, c ≠ '[' ∧ c ≠ ']') →
      .expression words ∈ ofSpan span → ∀ c ∈ words, c ≠ '[' ∧ c ≠ ']' := by
    intro span inside member
    unfold ofSpan at member
    split at member
    · cases member
    · obtain rfl : words = span.reverse := by simpa using member
      simpa using inside
  -- Behind a bracket or an operator a new span begins.
  have parted : ∀ {span rest : List Char} {token : Token}, (∀ c ∈ span, c ≠ '[' ∧ c ≠ ']') →
      ((∀ c ∈ ([] : List Char), c ≠ '[' ∧ c ≠ ']') → .expression words ∈ splitAfter [] rest →
        ∀ c ∈ words, c ≠ '[' ∧ c ≠ ']') →
      .expression words ∈ ofSpan span ++ token :: splitAfter [] rest →
      token ≠ .expression words → ∀ c ∈ words, c ≠ '[' ∧ c ≠ ']' := by
    intro span rest token inside behind member other
    rcases List.mem_append.mp member with first | later
    · exact here span inside first
    · exact behind (by simp) ((List.mem_cons.mp later).resolve_left other.symm)
  fun_induction splitAfter span text with
  | case1 span => exact here span inside member
  | case2 span text ih => exact parted inside ih member (by simp)
  | case3 span text ih => exact parted inside ih member (by simp)
  | case4 span text ih => exact parted inside ih member (by simp)
  | case5 span text ih => exact parted inside ih member (by simp)
  | case6 span c text opening closing both either ih =>
    exact ih (List.forall_mem_cons.mpr ⟨⟨opening, closing⟩, inside⟩) member

end Token

namespace Query

/-- The predicates that are read from a text are writable as far as their values hold no operators. -/
theorem Disjunction.writable_iff {text : List Char} {query : Query}
    (derived : Disjunction (Token.split text) query) {p : Predicate} (member : p ∈ query.predicates) :
    p.Writable ↔ ¬ ['&', '&'] <:+: p.value.toList ∧ ¬ ['|', '|'] <:+: p.value.toList := by
  -- A value that was read is filled and without blanks, and its span had no brackets.
  obtain ⟨words, found, read⟩ := derived.exists_expression p member
  obtain ⟨filled, solid, within⟩ := Predicate.value_of_ofChars read
  have brackets := Token.bracketless_of_mem_splitAfter (by simp) found
  constructor
  · intro writable
    exact writable.plain.2
  · intro apart
    exact ⟨filled, solid, fun c here => brackets c (within here), apart⟩

end Query

namespace QueryTree

/-- The canonical text of a tree that was read from a text gives the tree back, and has itself as its
canonical text, just when no value of the tree holds an operator. -/
theorem parse_render_stable_iff {text : String} {tree : QueryTree} (parsed : parse text = .ok tree) :
    (∃ again, parse tree.render = .ok again ∧ again.same tree = true ∧
      again.render = tree.render) ↔
    ∀ p ∈ tree.toQuery.predicates,
      ¬ ['&', '&'] <:+: p.value.toList ∧ ¬ ['|', '|'] <:+: p.value.toList := by
  obtain ⟨query, derived, rfl⟩ := parse_eq_ok_iff.mp parsed
  have whole := toQuery_ofQuery derived.compact
  rw [render, whole]
  constructor
  · rintro ⟨again, read, agree, -⟩ p member
    obtain ⟨other, rederived, rfl⟩ := parse_eq_ok_iff.mp read
    rw [same, toQuery_ofQuery rederived.compact, whole, Query.same_iff] at agree
    -- What is read again is the query itself, so all its values can be written.
    rw [agree] at rederived
    exact (derived.writable_iff member).mp (derived.full.writable rederived p member)
  · intro apart
    have rederived := derived.compact.derived_spelled derived.full fun p member =>
      (derived.writable_iff member).mpr (apart p member)
    refine ⟨ofQuery query, parse_eq_ok_iff.mpr ⟨query, rederived, rfl⟩, ?_, ?_⟩
    · rw [same, Query.same_iff]
    · rw [render, whole]

/-- The value of a name in which two different symbols stand side by side. -/
def mixed : QueryTree := ofPredicate ⟨.name, .none, .equal, "a&|b"⟩

/-- An ampersand and a bar are no operator, also when the blank between them is dropped. -/
theorem parse_render_mixed :
    parse "name = a& |b" = .ok mixed ∧
    ∃ again, parse mixed.render = .ok again ∧ again.same mixed = true ∧
      again.render = mixed.render := by
  have parsed : parse "name = a& |b" = .ok mixed := by decide +kernel
  refine ⟨parsed, (parse_render_stable_iff parsed).mpr ?_⟩
  -- With its blank dropped, the value has one half of each operator and no whole one.
  have values : mixed.toQuery.predicates = [⟨.name, .none, .equal, "a&|b"⟩] := by decide +kernel
  rw [values]
  decide

/-- Two ampersands with a blank between them become an operator in the canonical text, which then spells
another query. -/
theorem parse_render_glued :
    ∃ tree again, parse "name = a& & name = b" = .ok tree ∧ parse tree.render = .ok again ∧
      again.same tree = false := by
  -- The value of the first tree holds an operator, at which its text is split.
  refine ⟨ofPredicate ⟨.name, .none, .equal, "a&&name=b"⟩,
    join .intersect (ofPredicate ⟨.name, .none, .equal, "a"⟩)
      (ofPredicate ⟨.name, .none, .equal, "b"⟩), ?_, ?_, ?_⟩
  · decide +kernel
  · decide +kernel
  · decide +kernel

end QueryTree

end Decksmith
