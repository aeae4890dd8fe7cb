import Decksmith.Proofs.Query.Duality

/-! Predicates whose pattern cannot be read. No text passes one of them, so the only value that does is a list
without items: every item of it is excluded, since there is none. -/

namespace Decksmith

namespace Criterion

/-- A criterion that looks for a pattern and has none. -/
structure Patternless (criterion : Criterion) : Prop where
  asks : usesPattern criterion.predicate.relation = true
  missing : criterion.pattern = none

/-- Only inclusion and exclusion look for patterns. -/
theorem usesPattern_iff {relation : Relation} :
    usesPattern relation = true ↔ relation = .includes ∨ relation = .excludes := by
  cases relation <;> simp [usesPattern]

variable {criterion : Criterion} {mode : CaseMode}

/-- A predicate whose literal cannot be read as a pattern is made ready without one. -/
theorem patternless_ofPredicate {p : Predicate} (asks : usesPattern p.relation = true)
    (unreadable : Pattern.compile? p.value = none) : (ofPredicate p).Patternless where
  asks := asks
  missing := by rw [ofPredicate, if_pos asks, unreadable]

/-- Without a pattern no text passes. -/
theorem Patternless.acceptsText (patternless : criterion.Patternless) (text : String) :
    criterion.acceptsText mode text = false := by
  rcases usesPattern_iff.mp patternless.asks with includes | excludes
  · simp only [Criterion.acceptsText, includes, patternless.missing, Option.any_none]
  · simp only [Criterion.acceptsText, excludes, patternless.missing, Option.any_none]

/-- Nor does a single value, whether it has a text or not. -/
theorem Patternless.acceptsScalar (patternless : criterion.Patternless) (value : FieldValue) :
    criterion.acceptsScalar mode value = false := by
  -- An order asks for no pattern.
  have other : ∀ order, criterion.predicate.relation ≠ .order order := by
    intro order ordered
    have asks := patternless.asks
    rw [ordered] at asks
    cases asks
  cases found : value.asText? with
  | some text => rw [acceptsScalar_of_asText? other found, patternless.acceptsText]
  | none =>
    -- Of what is absent only inequality would hold.
    rcases usesPattern_iff.mp patternless.asks with includes | excludes
    · simp [Criterion.acceptsScalar, includes, found]
    · simp [Criterion.acceptsScalar, excludes, found]

/-- Some item would have to pass an inclusion, and every item an exclusion. -/
theorem Patternless.acceptsItems_iff (patternless : criterion.Patternless) (items : List String) :
    criterion.acceptsItems mode items = true ↔
      criterion.predicate.relation = .excludes ∧ items = [] := by
  have none : ∀ item, criterion.acceptsText mode item = false := patternless.acceptsText
  -- No item passes either relation, but an exclusion is satisfied where there is no item.
  rcases usesPattern_iff.mp patternless.asks with includes | excludes
  · simp [acceptsItems, includes, none]
  · simp only [acceptsItems, excludes, List.all_eq_true, none, Bool.false_eq_true, true_and]
    exact List.eq_nil_iff_forall_not_mem.symm

/-- Only a list without items passes, and only an exclusion that does not count the items. -/
theorem Patternless.accepts_iff (patternless : criterion.Patternless) (value : FieldValue) :
    criterion.accepts mode value = true ↔
      criterion.predicate.relation = .excludes ∧ criterion.predicate.modifier ≠ .count ∧
        value = .list [] := by
  -- No single value passes, so only the items of a list are left to pass, by there being none.
  cases found : value.asList? with
  | none =>
    rw [accepts_single _ found, patternless.acceptsScalar]
    refine ⟨nofun, ?_⟩
    rintro ⟨-, -, rfl⟩
    cases found
  | some items =>
    obtain rfl := FieldValue.eq_list_of_asList? found
    rw [accepts_list]
    by_cases counts : criterion.predicate.modifier = .count
    · -- The number of the items is a single value.
      rw [if_pos counts, patternless.acceptsScalar]
      exact ⟨nofun, fun both => absurd counts both.2.1⟩
    · rw [if_neg counts, patternless.acceptsItems_iff, FieldValue.list.injEq]
      exact and_congr_right fun _ => (and_iff_right counts).symm

end Criterion

namespace QueryTree

/-- A predicate whose pattern cannot be read holds of a record only if it excludes the pattern from the items
of a list and the list has none. The mask of a list of records says the same of each of them. -/
theorem holds_unreadable_iff {p : Predicate} (asks : Criterion.usesPattern p.relation = true)
    (unreadable : Pattern.compile? p.value = none) (mode : CaseMode) :
    (∀ record, (ofPredicate p).holds mode record = true ↔
      p.relation = .excludes ∧ p.modifier ≠ .count ∧ record.field p.key = .list []) ∧
    ∀ records, (ofPredicate p).mask mode records = records.map ((ofPredicate p).holds mode) := by
  -- Both evaluators test the field of the record with the compiled criterion.
  obtain ⟨holds, mask⟩ := evaluate_ofPredicate p mode
  refine ⟨fun record => ?_, mask⟩
  rw [holds]
  exact (Criterion.patternless_ofPredicate asks unreadable).accepts_iff (record.field p.key)

/-- An exclusion of a group that is never closed. -/
def unclosed : Predicate :=
  ⟨.colors, .none, .excludes, "("⟩

/-- A list of colors does not pass the exclusion, unless it is empty. -/
theorem holds_unreadable_iff_unclosed :
    (ofPredicate unclosed).holds .strict (painted "Shock" ["R"]) = false ∧
      (ofPredicate unclosed).mask .strict [painted "Shock" ["R"], painted "Ornithopter" []] =
        [false, true] := by
  -- The group of the pattern is never closed, so there is no pattern.
  have unreadable : Pattern.compile? unclosed.value = none := by decide +kernel
  obtain ⟨holds, mask⟩ := holds_unreadable_iff rfl unreadable .strict
  have red : (ofPredicate unclosed).holds .strict (painted "Shock" ["R"]) = false := by
    rw [← Bool.not_eq_true, holds]
    simp [painted, unclosed]
  have colorless : (ofPredicate unclosed).holds .strict (painted "Ornithopter" []) = true := by
    rw [holds]
    simp [painted, unclosed]
  exact ⟨red, by rw [mask, List.map_cons, List.map_singleton, red, colorless]⟩

/-- A pattern that cannot be read does not keep an exclusion from holding of a list without items. -/
theorem holds_excludes_unreadable :
    Criterion.usesPattern unclosed.relation = true ∧ Pattern.compile? unclosed.value = none ∧
      (ofPredicate unclosed).holds .ignoring (painted "Ornithopter" []) = true := by
  decide +kernel

end QueryTree

end Decksmith
