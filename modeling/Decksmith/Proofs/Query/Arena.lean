import Decksmith.Proofs.Query.Agreement
import Decksmith.Proofs.Query.Building

/-! Evaluating the nodes of a tree evaluates the query that they stand for, in whatever order the nodes are
stored and however often one of them is shared. -/

namespace Decksmith

namespace Evaluator

variable (tree : QueryTree) (mode : CaseMode)

/-- The criterion at a node with a predicate is made from that predicate. -/
theorem criterion?_ofTree {id : NodeId} {p : Predicate}
    (found : tree.nodes[id.index]? = some (.test p)) :
    (ofTree tree mode).criterion? id = some (.ofPredicate p) := by
  simp [criterion?, ofTree, found, Node.criterion?]

/-- Looking at a node for one record asks the query that is seen from it. -/
theorem holdsAt_ofTree (record : Record) (depth : Nat) (id : NodeId) :
    (ofTree tree mode).holdsAt record depth id = (tree.nodes.queryAt depth id).holds mode record := by
  -- Both go down one level at a time, so the induction is on the depth.
  induction depth generalizing id with
  | zero => simp [holdsAt, Nodes.queryAt]
  | succ depth ih =>
    have same : (ofTree tree mode).tree.nodes = tree.nodes := rfl
    rw [holdsAt, Nodes.queryAt, same]
    cases found : tree.nodes[id.index]? with
    | none => simp
    | some node =>
      cases node with
      | test p =>
        -- The criterion that was made in advance is the one that the query makes now.
        simp only [criterion?_ofTree tree mode found, Option.any_some]
        rw [Query.holds]
        rfl
      | group relation children =>
        cases relation with
        | union => simp [List.any_map, Function.comp_def, ← ih]
        | intersect => simp [List.all_map, Function.comp_def, ← ih]

/-- Looking at a node for a list of records asks the query that is seen from it. -/
theorem maskAt_ofTree (records : List Record) (depth : Nat) (id : NodeId) :
    (ofTree tree mode).maskAt records depth id = (tree.nodes.queryAt depth id).mask mode records := by
  -- As for one record, the induction is on the depth.
  induction depth generalizing id with
  | zero => simp [maskAt, Nodes.queryAt, Query.mask]
  | succ depth ih =>
    have same : (ofTree tree mode).tree.nodes = tree.nodes := rfl
    rw [maskAt, Nodes.queryAt, same]
    cases found : tree.nodes[id.index]? with
    | none => simp [Query.mask]
    | some node =>
      cases node with
      | test p =>
        simp only [criterion?_ofTree tree mode found]
        rw [Query.mask]
        rfl
      | group relation children =>
        cases children with
        -- Both masks of a group of nothing select none.
        | nil => simp [Query.mask]
        | cons first others =>
          -- Both fold the masks of the further children into that of the first.
          simp only [List.map_cons, Query.mask, Query.maskRest_eq_foldl, List.foldl_map, ih]

end Evaluator

namespace QueryTree

/-- The query that a tree is evaluated as. -/
def seen (tree : QueryTree) : Query :=
  tree.toQuery

variable {tree : QueryTree} {mode : CaseMode}

/-- Evaluating a tree for one record evaluates the query that is seen from its root. -/
theorem holds_eq (record : Record) : tree.holds mode record = tree.seen.holds mode record :=
  Evaluator.holdsAt_ofTree tree mode record tree.nodes.size tree.root

/-- Evaluating a tree for a list of records evaluates the query that is seen from its root. -/
theorem mask_eq (records : List Record) : tree.mask mode records = tree.seen.mask mode records :=
  Evaluator.maskAt_ofTree tree mode records tree.nodes.size tree.root

/-- The records that a tree selects are those that the query selects which is seen from its root. -/
theorem select_eq (records : List Record) : tree.select mode records = tree.seen.select mode records := by
  unfold select Evaluator.select Query.select
  rw [← mask_eq]
  rfl

/-- The depth of the evaluation never falls short: whatever a tree stands for is seen as a whole. -/
theorem seen_eq {query : Query} (stands : tree.nodes.StandsFor tree.root query) :
    tree.seen = query :=
  toQuery_eq stands

/-- The tree that a compact query is laid out as selects the same records, so that a filter or a rule may be
kept as a query. -/
theorem evaluate_ofQuery {query : Query} (compact : query.Compact) :
    (∀ record, (ofQuery query).holds mode record = query.holds mode record) ∧
      ∀ records, (ofQuery query).mask mode records = query.mask mode records := by
  have whole : (ofQuery query).seen = query := toQuery_ofQuery compact
  exact ⟨fun record => by rw [holds_eq, whole], fun records => by rw [mask_eq, whole]⟩

end QueryTree

end Decksmith
