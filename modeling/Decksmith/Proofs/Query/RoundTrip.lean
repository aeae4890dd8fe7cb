import Decksmith.Proofs.Query.Balance
import Decksmith.Proofs.Query.Building

/-! Writing a tree and parsing the text gives the tree back just when its values can be written. -/

namespace Decksmith

/-- A predicate with a value that a text can hold: it has characters, and among them are no blanks, no
brackets and no operators. -/
structure Predicate.Writable (p : Predicate) : Prop where
  filled : p.value ≠ ""
  solid : Text.Solid p.value.toList
  plain : Token.Plain p.value.toList

namespace Query

/-- The text of a writable predicate is an atom. -/
theorem atom_spelled {p : Predicate} (writable : p.Writable) :
    Atom (test p).spelled (test p) := by
  -- A writable value has no bracket and no operator, so the text is one span.
  have whole : (test p).spelled = [.expression p.render.toList] :=
    Predicate.split_render_plain writable.plain
  rw [whole]
  exact .expression (Predicate.ofChars_render p writable.filled writable.solid)

/-- The operands of an intersection are its factors. -/
theorem factors_spelled {operands : List Query} (some : operands ≠ [])
    (derived : ∀ operand ∈ operands, Disjunction operand.spelled operand) :
    Factors (group .intersect operands).spelled operands := by
  induction operands with
  | nil => exact absurd rfl some
  | cons first others ih =>
    obtain ⟨first, rest⟩ := List.forall_mem_cons.mp derived
    cases others with
    | nil =>
      rw [spelled_single]
      exact .last (.bracketed first)
    | cons second others =>
      rw [spelled_cons]
      -- Every operand is a factor, because it stands in brackets.
      simpa [SetRelation.token] using Factors.before (.bracketed first) (ih (by simp) rest)

/-- The operands of a union are its alternatives. -/
theorem alternatives_spelled {operands : List Query} (some : operands ≠ [])
    (derived : ∀ operand ∈ operands, Disjunction operand.spelled operand) :
    Alternatives (group .union operands).spelled operands := by
  induction operands with
  | nil => exact absurd rfl some
  | cons first others ih =>
    obtain ⟨first, rest⟩ := List.forall_mem_cons.mp derived
    -- A single factor in brackets is an alternative by itself.
    have single := Conjunction.chain (.last (.bracketed first))
    cases others with
    | nil =>
      rw [spelled_single]
      exact .last single
    | cons second others =>
      rw [spelled_cons]
      simpa [SetRelation.token, ofOperands] using Alternatives.before single (ih (by simp) rest)

/-- Several operands form a group. -/
theorem ofOperands_of_length_ne (relation : SetRelation) {operands : List Query}
    (several : operands.length ≠ 1) : ofOperands relation operands = group relation operands := by
  -- Only a single operand stands for itself.
  match operands with
  | [] => rfl
  | [query] => simp at several
  | _ :: _ :: _ => rfl

/-- The text of a query with writable predicates derives that query. -/
theorem Compact.derived_spelled {query : Query} (compact : query.Compact) (full : query.Full)
    (writable : ∀ p ∈ query.predicates, p.Writable) : Disjunction query.spelled query := by
  induction compact with
  | test p =>
    have atom := atom_spelled (writable p (by simp [predicates]))
    exact .chain (.last (.chain (.last atom)))
  | @group relation operands several parts ih =>
    cases full with
    | group _ some full =>
      -- The operands are derived each by itself, with the predicates that they have.
      have derived : ∀ operand ∈ operands, Disjunction operand.spelled operand :=
        fun operand member => ih operand member (full operand member) fun p within =>
          writable p (mem_predicatesOf.mpr ⟨operand, member, within⟩)
      cases relation with
      | union =>
        have chain := Disjunction.chain (alternatives_spelled some derived)
        rwa [ofOperands_of_length_ne .union several] at chain
      | intersect =>
        have chain := Conjunction.chain (factors_spelled some derived)
        rw [ofOperands_of_length_ne .intersect several] at chain
        -- An intersection is a union of one alternative.
        exact .chain (.last chain)

/-- If the text of a query derives that query, then its predicates are writable. -/
theorem Full.writable {query : Query} (full : query.Full)
    (derived : Disjunction query.spelled query) : ∀ p ∈ query.predicates, p.Writable := by
  intro p member
  obtain ⟨_, -, read⟩ := derived.exists_expression p member
  obtain ⟨filled, solid, -⟩ := Predicate.value_of_ofChars read
  obtain ⟨words, rest, shape⟩ := p.split_render_expression
  -- The text of the predicate is then an expression and nothing else.
  have none : (Query.test p).spelled.tail = [] :=
    List.flatMap_eq_nil_iff.mp (full.surplus_eq_nil derived) p member
  have rest : rest = [] := by simpa [spelled, render, shape] using none
  have single : ∀ token ∈ Token.splitAfter p.lead.toList.reverse p.value.toList,
      ∃ words, token = .expression words := by
    intro token found
    rw [← Predicate.split_render, shape, rest, List.mem_singleton] at found
    exact ⟨words, found⟩
  exact ⟨filled, solid, Token.plain_of_splitAfter single⟩

end Query

namespace QueryTree

/-- Parsing the text of a tree, whichever the order of its nodes, gives a tree of the same query just when the values
of its predicates have characters and no blanks, brackets or operators. -/
theorem parse_render_iff_writable {tree : QueryTree} (formed : tree.Formed)
    (full : tree.toQuery.Full) :
    (∃ parsed, parse tree.render = .ok parsed ∧ parsed.same tree = true) ↔
      ∀ p ∈ tree.toQuery.predicates, p.Writable := by
  constructor
  · rintro ⟨parsed, read, agree⟩
    obtain ⟨query, derived, rfl⟩ := parse_eq_ok_iff.mp read
    rw [same, toQuery_ofQuery derived.compact, Query.same_iff] at agree
    -- What is read from the text is the query of the tree itself.
    rw [agree] at derived
    exact full.writable derived
  · intro writable
    have compact := formed.compact_toQuery
    have derived := compact.derived_spelled full writable
    refine ⟨ofQuery tree.toQuery, parse_eq_ok_iff.mpr ⟨tree.toQuery, derived, rfl⟩, ?_⟩
    rw [same, toQuery_ofQuery compact, Query.same_iff]

/-- A union of two predicates; the value of the second one has a single ampersand. -/
def cheapOrPaired : QueryTree :=
  join .union (ofPredicate ⟨.cmc, .none, .order .lessOrEqual, "2"⟩)
    (ofPredicate ⟨.name, .none, .includes, "a&b"⟩)

/-- The text of this tree gives the tree back, because a single ampersand is no operator. -/
theorem parse_render_cheapOrPaired :
    ∃ parsed, parse cheapOrPaired.render = .ok parsed ∧ parsed.same cheapOrPaired = true := by
  have query : cheapOrPaired.toQuery = .group .union
      [.test ⟨.cmc, .none, .order .lessOrEqual, "2"⟩, .test ⟨.name, .none, .includes, "a&b"⟩] := rfl
  -- The tree has one group, with two operands.
  have full : cheapOrPaired.toQuery.Full := by
    rw [query]
    exact .group .union (by simp) (by simpa using ⟨.test _, .test _⟩)
  have formed : cheapOrPaired.Formed := (join_built _ _ _).formed
  refine (parse_render_iff_writable formed full).mpr ?_
  rw [query]
  simp only [Query.predicates, Query.predicatesOf, List.append_nil, List.forall_mem_append,
    List.forall_mem_singleton]
  exact ⟨⟨by decide, by decide, by decide⟩, ⟨by decide, by decide, by decide⟩⟩

end QueryTree

end Decksmith
