import Decksmith.Proofs.Query.Duality

/-! What regarding case changes. Texts that are equal with their case are equal without it, so strictness
narrows what a query without inequality selects and widens what one without equality does. -/

namespace Decksmith

/-- Whatever is equal in one mode is equal in another one. -/
def CaseMode.Within (mode other : CaseMode) : Prop :=
  ∀ field literal, looselyEqual field literal mode = true → looselyEqual field literal other = true

/-- What is equal with its case is equal without it. -/
theorem CaseMode.strict_within_ignoring : CaseMode.strict.Within .ignoring := by
  intro field literal equal
  unfold looselyEqual at equal ⊢
  split
  · -- Two numbers are compared in the same way in both modes.
    rename_i a b left right
    simpa only [left, right] using equal
  · rename_i notNumbers
    -- Where one side is no number, equality was that of the texts.
    have same : textsAgree .strict field literal = true := by
      split at equal
      · rename_i a b left right
        exact absurd right (notNumbers a b left)
      · exact equal
    -- Equal texts have equal lowercase forms.
    obtain rfl : field = literal := eq_of_beq same
    exact beq_self_eq_true (Text.lowercaseText field.toList)

/-- Whether a relation accepts in another mode what it accepts in one. Only equality and inequality look at
the mode, the latter the other way round. -/
def Relation.Keeps (relation : Relation) (mode other : CaseMode) : Prop :=
  match relation with
  | .equal => mode.Within other
  | .notEqual => other.Within mode
  | _ => True

/-- Strictness is kept where nothing asks for inequality. -/
theorem Relation.keeps_ignoring {relation : Relation} (other : relation ≠ .notEqual) :
    relation.Keeps .strict .ignoring := by
  -- Only equality looks at the mode here, and it is wider without the case.
  cases relation with
  | equal => exact CaseMode.strict_within_ignoring
  | notEqual => exact absurd rfl other
  | order _ => trivial
  | includes => trivial
  | excludes => trivial

/-- And it is kept the other way round where nothing asks for equality. -/
theorem Relation.keeps_strict {relation : Relation} (other : relation ≠ .equal) :
    relation.Keeps .ignoring .strict := by
  -- Inequality accepts more where equality accepts less.
  cases relation with
  | equal => exact absurd rfl other
  | notEqual => exact CaseMode.strict_within_ignoring
  | order _ => trivial
  | includes => trivial
  | excludes => trivial

variable {mode other : CaseMode}

namespace Criterion

variable {criterion : Criterion}

/-- A text that passes in one mode passes in the other. -/
theorem acceptsText_of_keeps (keeps : criterion.predicate.relation.Keeps mode other) {text : String}
    (passes : criterion.acceptsText mode text = true) : criterion.acceptsText other text = true := by
  -- Apart from equality and inequality no relation looks at the mode.
  unfold acceptsText at passes ⊢
  cases asks : criterion.predicate.relation with
  | equal =>
    simp only [asks] at passes keeps ⊢
    exact keeps text criterion.predicate.value passes
  | notEqual =>
    -- What is equal in the other mode would be so in the first one.
    simp only [asks, Bool.not_eq_true', ← Bool.not_eq_true] at passes keeps ⊢
    exact fun equal => passes (keeps text criterion.predicate.value equal)
  | order order => simpa only [asks] using passes
  | includes => simpa only [asks] using passes
  | excludes => simpa only [asks] using passes

/-- So does a single value. -/
theorem acceptsScalar_of_keeps (keeps : criterion.predicate.relation.Keeps mode other)
    {value : FieldValue} (passes : criterion.acceptsScalar mode value = true) :
    criterion.acceptsScalar other value = true := by
  unfold acceptsScalar at passes ⊢
  split
  -- An order compares numbers, in the same way in both modes.
  · rename_i order asks
    simpa only [asks] using passes
  · cases found : value.asText? with
    | none => simpa only [found] using passes
    | some text =>
      simp only [found] at passes ⊢
      exact acceptsText_of_keeps keeps passes

/-- So do the items of a list, of which some or all have to pass. -/
theorem acceptsItems_of_keeps (keeps : criterion.predicate.relation.Keeps mode other)
    {items : List String} (passes : criterion.acceptsItems mode items = true) :
    criterion.acceptsItems other items = true := by
  have onItem : ∀ item, criterion.acceptsText mode item = true →
      criterion.acceptsText other item = true := fun _ => acceptsText_of_keeps keeps
  -- One item that passes is enough for some relations.
  have some (found : items.any (criterion.acceptsText mode) = true) :
      items.any (criterion.acceptsText other) = true := by
    obtain ⟨item, member, passes⟩ := List.any_eq_true.mp found
    exact List.any_eq_true.mpr ⟨item, member, onItem item passes⟩
  -- For others every item has to pass.
  have all (each : items.all (criterion.acceptsText mode) = true) :
      items.all (criterion.acceptsText other) = true :=
    List.all_eq_true.mpr fun item member => onItem item (List.all_eq_true.mp each item member)
  unfold acceptsItems at passes ⊢
  split at passes
  · exact some passes
  · exact some passes
  · exact all passes
  · exact all passes
  · cases passes

/-- So does any value. -/
theorem accepts_of_keeps (keeps : criterion.predicate.relation.Keeps mode other) {value : FieldValue}
    (passes : criterion.accepts mode value = true) : criterion.accepts other value = true := by
  cases found : value.asList? with
  | none =>
    rw [accepts_single _ found] at passes ⊢
    exact acceptsScalar_of_keeps keeps passes
  | some items =>
    obtain rfl := FieldValue.eq_list_of_asList? found
    rw [accepts_list] at passes ⊢
    -- A list is judged by its length or by its items, whichever the predicate asks for.
    by_cases counts : criterion.predicate.modifier = .count
    · rw [if_pos counts] at passes ⊢
      exact acceptsScalar_of_keeps keeps passes
    · rw [if_neg counts] at passes ⊢
      exact acceptsItems_of_keeps keeps passes

end Criterion

namespace Query

/-- A record that passes a query passes it in another mode that all predicates keep. -/
theorem holds_of_keeps {query : Query} (keeps : ∀ p ∈ query.predicates, p.relation.Keeps mode other)
    {record : Record} (passes : query.holds mode record = true) : query.holds other record = true := by
  -- The induction is on the query, and every predicate of an operand is one of the group.
  induction query using induction with
  | test p =>
    rw [holds] at passes ⊢
    exact Criterion.accepts_of_keeps (keeps p (by simp [predicates])) passes
  | group relation operands ih =>
    have parts : ∀ query ∈ operands, query.holds mode record = true →
        query.holds other record = true := fun query member =>
      ih query member fun p found => keeps p (mem_predicatesOf.mpr ⟨query, member, found⟩)
    cases relation with
    | union =>
      rw [holds_union, List.any_eq_true] at passes ⊢
      obtain ⟨query, member, passes⟩ := passes
      exact ⟨query, member, parts query member passes⟩
    | intersect =>
      rw [holds_intersect, List.all_eq_true] at passes ⊢
      exact fun query member => parts query member (passes query member)

/-- A record that a query selects is selected in another mode that all predicates keep. -/
theorem marks_of_keeps {query : Query} (keeps : ∀ p ∈ query.predicates, p.relation.Keeps mode other)
    {record : Record} (marked : query.marks mode record = true) : query.marks other record = true := by
  induction query using induction with
  | test p =>
    rw [marks_test] at marked ⊢
    exact holds_of_keeps keeps marked
  | group relation operands ih =>
    -- A group of nothing selects no record in any mode.
    rcases eq_or_ne operands [] with rfl | some
    · rw [marks_group_nil] at marked
      cases marked
    have parts : ∀ query ∈ operands, query.marks mode record = true →
        query.marks other record = true := fun query member =>
      ih query member fun p found => keeps p (mem_predicatesOf.mpr ⟨query, member, found⟩)
    -- A group selects by its operands, some of them or all.
    rw [marks_group_iff some] at marked ⊢
    cases relation with
    | union =>
      obtain ⟨query, member, marked⟩ := marked
      exact ⟨query, member, parts query member marked⟩
    | intersect => exact fun query member => parts query member (marked query member)

end Query

/-- The predicates that are seen from a node are among those of the nodes. -/
theorem Nodes.mem_of_mem_queryAt {nodes : Nodes} {depth : Nat} {id : NodeId} {p : Predicate}
    (seen : p ∈ (nodes.queryAt depth id).predicates) : .test p ∈ nodes.toList := by
  -- Nothing is seen below the last level, and a level adds one node to what is seen.
  induction depth generalizing id with
  | zero => simp [queryAt, Query.predicates, Query.predicatesOf] at seen
  | succ depth ih =>
    rw [queryAt] at seen
    split at seen
    · simp [Query.predicates, Query.predicatesOf] at seen
    · rename_i q found
      obtain rfl : p = q := by simpa [Query.predicates] using seen
      exact Array.mem_toList_iff.mpr (Array.mem_of_getElem? found)
    · -- A predicate of a group is seen from one of its children.
      rw [Query.predicates, Query.mem_predicatesOf] at seen
      obtain ⟨query, member, within⟩ := seen
      obtain ⟨child, _, rfl⟩ := List.mem_map.mp member
      exact ih within

namespace QueryTree

/-- What a tree selects in one mode it selects in another one as well, asked of one record or of a list. -/
structure SelectsWithin (tree : QueryTree) (mode other : CaseMode) : Prop where
  holds : ∀ record, tree.holds mode record = true → tree.holds other record = true
  select : ∀ records, (tree.select mode records).Sublist (tree.select other records)

/-- A tree selects no less in a mode that all of its predicates keep. -/
theorem selectsWithin_of_keeps {tree : QueryTree}
    (keeps : ∀ p ∈ tree.predicates, p.relation.Keeps mode other) : tree.SelectsWithin mode other := by
  -- What the evaluators look at is seen from the root, so its predicates are predicates of the tree.
  have seen : ∀ p ∈ tree.seen.predicates, p.relation.Keeps mode other := fun p member =>
    keeps p (List.mem_filterMap.mpr ⟨.test p, Nodes.mem_of_mem_queryAt member, rfl⟩)
  refine ⟨fun record => ?_, fun records => ?_⟩
  · rw [holds_eq, holds_eq]
    exact Query.holds_of_keeps seen
  · rw [select_eq_filter, select_eq_filter, marks_eq, marks_eq]
    exact List.monotone_filter_right records fun record => Query.marks_of_keeps seen

/-- Texts that are equal with their case are equal without it. So a tree that asks for no inequality selects no
more with strictness, one that asks for no equality selects no less, and one that asks for neither selects the
same records. -/
theorem select_strict (tree : QueryTree) :
    (∀ field literal, looselyEqual field literal .strict = true →
      looselyEqual field literal .ignoring = true) ∧
    ((∀ p ∈ tree.predicates, p.relation ≠ .notEqual) → tree.SelectsWithin .strict .ignoring) ∧
    ((∀ p ∈ tree.predicates, p.relation ≠ .equal) → tree.SelectsWithin .ignoring .strict) ∧
    ((∀ p ∈ tree.predicates, p.relation ≠ .equal ∧ p.relation ≠ .notEqual) →
      ∀ records, tree.select .strict records = tree.select .ignoring records) := by
  -- Without inequality strictness accepts less, and without equality it accepts more.
  have narrows (asks : ∀ p ∈ tree.predicates, p.relation ≠ .notEqual) :
      tree.SelectsWithin .strict .ignoring :=
    selectsWithin_of_keeps fun p member => Relation.keeps_ignoring (asks p member)
  have widens (asks : ∀ p ∈ tree.predicates, p.relation ≠ .equal) :
      tree.SelectsWithin .ignoring .strict :=
    selectsWithin_of_keeps fun p member => Relation.keeps_strict (asks p member)
  refine ⟨CaseMode.strict_within_ignoring, narrows, widens, fun asks records => ?_⟩
  -- Two lists that each are a part of the other one are the same.
  exact ((narrows fun p member => (asks p member).2).select records).antisymm
    ((widens fun p member => (asks p member).1).select records)

/-- What is called a goblin. -/
def goblin : Predicate :=
  ⟨.name, .none, .equal, "goblin"⟩

/-- Strictness loses the goblin that is written with a capital letter, and gains it where goblins are left out.
Where nothing is compared as a text, it changes nothing. -/
theorem select_strict_goblins :
    (ofPredicate goblin).SelectsWithin .strict .ignoring ∧
      (ofPredicate goblin.dual).SelectsWithin .ignoring .strict ∧
      (∀ records, multicoloredOrElvish.select .strict records =
        multicoloredOrElvish.select .ignoring records) ∧
      (ofPredicate goblin).mask .strict [named 1 "goblin", named 2 "Goblin"] = [true, false] ∧
      (ofPredicate goblin).mask .ignoring [named 1 "goblin", named 2 "Goblin"] = [true, true] ∧
      (ofPredicate goblin.dual).mask .strict [named 1 "goblin", named 2 "Goblin"] = [false, true] ∧
      (ofPredicate goblin.dual).mask .ignoring [named 1 "goblin", named 2 "Goblin"] = [false, false] := by
  -- Each of the three trees leaves out a relation, or two of them, and the masks are computed.
  refine ⟨(select_strict _).2.1 (by decide), (select_strict _).2.2.1 (by decide),
    (select_strict _).2.2.2 (by decide), ?_⟩
  decide +kernel

end QueryTree

end Decksmith
