import Decksmith.Proofs.Query.Arena

/-! The two evaluators of a tree agree, and the one for lists looks at one record at a time. -/

namespace Decksmith

/-- What can be reached on the way down from a node. -/
inductive Nodes.Reaches (nodes : Nodes) : NodeId → NodeId → Prop where
  | here (id : NodeId) : Reaches nodes id id
  | child {id child below : NodeId} {relation : SetRelation} {children : List NodeId}
      (found : nodes[id.index]? = some (.group relation children)) (member : child ∈ children)
      (further : Reaches nodes child below) : Reaches nodes id below

/-- If no intersection of nothing can be reached from a node, none is seen from it at any depth. -/
theorem Nodes.queryAt_proper {nodes : Nodes} (depth : Nat) {id : NodeId}
    (some : ∀ below, nodes.Reaches id below →
      nodes[below.index]? ≠ .some (.group .intersect [])) :
    (nodes.queryAt depth id).Proper := by
  -- What is not there counts as a union, and a union of nothing is proper.
  have nothing : (Query.group .union []).Proper := .union (by simp)
  -- Whatever is reached from a child is reached from its group.
  induction depth generalizing id with
  | zero => exact nothing
  | succ depth ih =>
    rw [queryAt]
    split
    · exact nothing
    · exact .test _
    · rename_i relation children found
      -- The children are seen one level further down, and from each of them less is reached than from here.
      have parts : ∀ query ∈ children.map (nodes.queryAt depth), query.Proper := by
        intro query member
        obtain ⟨child, listed, rfl⟩ := List.mem_map.mp member
        exact ih fun below further => some below (.child found listed further)
      cases relation with
      | union => exact .union parts
      | intersect =>
        refine .intersect (fun none => ?_) parts
        rw [List.map_eq_nil_iff.mp none] at found
        exact some id (.here id) found

namespace QueryTree

/-- Whether a tree selects a record: the bit of the record in its own mask. -/
def marks (tree : QueryTree) (mode : CaseMode) (record : Record) : Bool :=
  tree.mask mode [record] = [true]

/-- The bit of a record is that in the query which is seen from the root. -/
theorem marks_eq (tree : QueryTree) (mode : CaseMode) : tree.marks mode = tree.seen.marks mode := by
  funext record
  rw [marks, mask_eq, Query.marks]

/-- The mask of a tree says of every record whether the tree selects it. -/
theorem mask_eq_map (tree : QueryTree) (mode : CaseMode) (records : List Record) :
    tree.mask mode records = records.map (tree.marks mode) := by
  rw [mask_eq, Query.mask_eq_map, marks_eq]

/-- The tree of a compact query selects what the query selects. -/
theorem marks_ofQuery {query : Query} (compact : query.Compact) (mode : CaseMode) :
    (ofQuery query).marks mode = query.marks mode := by
  rw [marks_eq, seen, toQuery_ofQuery compact]

/-- A tree selects the records whose own bit is set. -/
theorem select_eq_filter (tree : QueryTree) (mode : CaseMode) (records : List Record) :
    tree.select mode records = records.filter (tree.marks mode) := by
  rw [select_eq, Query.select_eq_filter, marks_eq]

/-- The tree of a single predicate tests the field that the predicate names, of one record as of many. -/
theorem evaluate_ofPredicate (p : Predicate) (mode : CaseMode) :
    (∀ record, (ofPredicate p).holds mode record = (Criterion.ofPredicate p).acceptsRecord mode record) ∧
      ∀ records, (ofPredicate p).mask mode records = records.map ((ofPredicate p).holds mode) := by
  -- A single test is compact and proper, so both evaluators look at the predicate itself.
  obtain ⟨holds, mask⟩ := @evaluate_ofQuery mode (.test p) (.test p)
  refine ⟨holds, fun records => ?_⟩
  rw [ofPredicate, mask, (Query.Proper.test p).mask_eq_map_holds]
  exact List.map_congr_left fun record _ => (holds record).symm

/-- Without an intersection of nothing the mask of a list holds for every record what the tree holds of the
record alone. Always the selected records are those whose own bit is set, so that lists can be evaluated
in pieces. -/
theorem mask_and_select_pointwise (tree : QueryTree) (mode : CaseMode) :
    ((∀ id, tree.nodes.Reaches tree.root id →
        tree.nodes[id.index]? ≠ some (.group .intersect [])) →
      ∀ records, tree.mask mode records = records.map (tree.holds mode)) ∧
    (∀ records, tree.mask mode records = records.map (tree.marks mode) ∧
      tree.select mode records = records.filter (tree.marks mode)) ∧
    ∀ front back,
      tree.select mode (front ++ back) = tree.select mode front ++ tree.select mode back := by
  refine ⟨fun some records => ?_, fun records => ⟨mask_eq_map tree mode records,
    select_eq_filter tree mode records⟩, fun front back => ?_⟩
  · -- Both evaluators look at the same query.
    have proper : tree.seen.Proper := Nodes.queryAt_proper _ some
    rw [mask_eq, proper.mask_eq_map_holds]
    exact List.map_congr_left fun record _ => (holds_eq record).symm
  · -- Selecting is a filter, which goes through a list piece by piece.
    simp only [select_eq_filter, List.filter_append]

/-- An intersection of nothing holds of every record, and its mask selects none. -/
example (record : Record) :
    holds ⟨#[.group .intersect []], ⟨0⟩⟩ .strict record = true ∧
      mask ⟨#[.group .intersect []], ⟨0⟩⟩ .strict [record] = [false] := ⟨rfl, rfl⟩

/-- A union whose node stands in front of those of its operands. -/
def upsideDown : QueryTree where
  nodes := #[.group .union [⟨1⟩, ⟨2⟩], .test ⟨.name, .none, .equal, "a"⟩,
    .test ⟨.name, .none, .equal, "b"⟩]
  root := ⟨0⟩

/-- A record with nothing but a name. -/
def named (number : UInt32) (name : String) : Record :=
  ⟨⟨number⟩, fun _ => .text name, fun _ => .absent⟩

/-- The order of the nodes does not matter to either evaluator. -/
theorem mask_upsideDown :
    upsideDown.mask .strict [named 1 "a", named 2 "c", named 3 "b"] = [true, false, true] ∧
      [named 1 "a", named 2 "c", named 3 "b"].map (upsideDown.holds .strict) =
        [true, false, true] := by
  -- None of the three nodes is an empty intersection.
  have some : ∀ node ∈ upsideDown.nodes, node ≠ .group .intersect [] := by decide
  have agree := (mask_and_select_pointwise upsideDown .strict).1
    (fun id _ same => some _ (Array.mem_of_getElem? same) rfl)
  have tested : [named 1 "a", named 2 "c", named 3 "b"].map (upsideDown.holds .strict) =
      [true, false, true] := by decide +kernel
  exact ⟨(agree _).trans tested, tested⟩

end QueryTree

end Decksmith
