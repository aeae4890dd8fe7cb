import Decksmith.Proofs.Query.Balance
import Decksmith.Proofs.Query.Evaluation
import Decksmith.Proofs.Query.Opposition

/-! The dual of a query asks for the opposite in every predicate and swaps the two kinds of groups. No record
passes both, and a record that gives every predicate something to look at passes exactly one of them. -/

namespace Decksmith

/-- The other way to combine sets. -/
def SetRelation.dual : SetRelation → SetRelation
  | union => intersect
  | intersect => union

namespace Query

mutual

/-- The query with the dual of every predicate and of every group. -/
def dual : Query → Query
  | test p => test p.dual
  | group relation operands => group relation.dual (dualAll operands)

/-- The duals of some queries. -/
def dualAll : List Query → List Query
  | [] => []
  | query :: others => dual query :: dualAll others

end

@[simp] theorem dual_test (p : Predicate) : (test p).dual = test p.dual := by rw [dual]

@[simp] theorem dual_group (relation : SetRelation) (operands : List Query) :
    (group relation operands).dual = group relation.dual (operands.map dual) := by
  -- The mutual recursion over the operands is a map.
  have all : dualAll operands = operands.map dual := by
    induction operands with
    | nil => rfl
    | cons query others ih => rw [dualAll, ih, List.map_cons]
  rw [dual, all]

end Query

/-- The node with the dual of its predicate or of its relation, and with the same children. -/
def Node.dual : Node → Node
  | test p => test p.dual
  | group relation children => group relation.dual children

/-- The tree with the duals of all nodes. -/
def QueryTree.dual (tree : QueryTree) : QueryTree where
  nodes := tree.nodes.map Node.dual
  root := tree.root

variable {mode : CaseMode}

namespace Query

/-- A query is opposed to its dual on every record, in any case if all of its predicates are decisive. -/
theorem holds_dual (query : Query) (record : Record) :
    Opposed (∀ p ∈ query.predicates, p.Decisive (record.field p.key)) (query.holds mode record)
      (query.dual.holds mode record) := by
  -- The induction is on the query. Taking the dual turns unions into intersections, as negation does.
  induction query using induction with
  | test p =>
    rw [dual_test, holds, holds]
    refine (Criterion.accepts_dual p (record.field p.key)).mono fun decisive => ?_
    exact decisive p (by simp [predicates])
  | group relation operands ih =>
    -- What is decisive for the group is so for each operand.
    have opposed : ∀ query ∈ operands,
        Opposed (∀ p ∈ (group relation operands).predicates, p.Decisive (record.field p.key))
          (query.holds mode record) (query.dual.holds mode record) :=
      fun query member => (ih query member).mono fun decisive p found =>
        decisive p (mem_predicatesOf.mpr ⟨query, member, found⟩)
    rw [dual_group]
    cases relation with
    -- One operand passes, or none does and so all duals pass.
    | union =>
      rw [holds_union, SetRelation.dual, holds_intersect, List.all_map]
      exact .any_all opposed
    -- All operands pass, or one does not and its dual does.
    | intersect =>
      rw [holds_intersect, SetRelation.dual, holds_union, List.any_map]
      exact .all_any opposed

/-- The dual of a full query is full. -/
theorem Full.dual {query : Query} (full : query.Full) : query.dual.Full := by
  -- The dual has as many operands as the query.
  induction full with
  | test p => exact dual_test p ▸ .test p.dual
  | @group relation operands some parts ih =>
    rw [dual_group]
    refine .group relation.dual (by simpa using some) fun query member => ?_
    obtain ⟨operand, found, rfl⟩ := List.mem_map.mp member
    exact ih operand found

/-- In a full query no intersection is empty. -/
theorem Full.proper {query : Query} (full : query.Full) : query.Proper := by
  -- Every group has an operand, so no intersection is one of nothing.
  induction full with
  | test p => exact .test p
  | @group relation operands some _ ih =>
    cases relation with
    | union => exact .union ih
    | intersect => exact .intersect some ih

end Query

/-- In the dual of a tree every node stands for the dual of its query. -/
theorem Nodes.StandsFor.dual {nodes : Nodes} {id : NodeId} {query : Query}
    (stands : nodes.StandsFor id query) :
    StandsFor (nodes.map Node.dual) id query.dual := by
  -- Taking the dual changes what a node says but neither its place nor its children.
  have mapped : ∀ {index : Nat} {node : Node}, nodes[index]? = some node →
      (nodes.map Node.dual)[index]? = some node.dual := by
    intro index node found
    rw [Array.getElem?_map, found, Option.map_some]
  induction stands with
  | test found =>
    rw [Query.dual_test]
    exact .test (mapped found)
  | group query found _ ih =>
    rw [Query.dual_group, List.map_map]
    exact .group (Query.dual ∘ query) (mapped found) ih

namespace QueryTree

/-- No record passes both a tree and its dual, and one on which every predicate of the tree is decisive passes
exactly one of them. Without empty groups, the masks of a list of records are made of these answers. -/
theorem opposed_dual {tree : QueryTree} {query : Query} (stands : tree.nodes.StandsFor tree.root query)
    (mode : CaseMode) :
    (∀ record,
      ¬ (tree.holds mode record = true ∧ tree.dual.holds mode record = true) ∧
      ((∀ p ∈ query.predicates, p.Decisive (record.field p.key)) →
        tree.dual.holds mode record = !tree.holds mode record)) ∧
    (query.Full → ∀ records,
      tree.mask mode records = records.map (tree.holds mode) ∧
      tree.dual.mask mode records = records.map (tree.dual.holds mode)) := by
  -- Both trees are seen as the query and its dual, for which the answers are opposed.
  have seen : tree.seen = query := seen_eq stands
  have seenDual : tree.dual.seen = query.dual := seen_eq stands.dual
  refine ⟨fun record => ?_, fun full records => ⟨?_, ?_⟩⟩
  · rw [holds_eq, holds_eq, seen, seenDual]
    have opposed := @Query.holds_dual mode query record
    exact ⟨opposed.apart, opposed.complete⟩
  · rw [mask_eq, seen, full.proper.mask_eq_map_holds]
    exact List.map_congr_left fun record _ => by rw [holds_eq, seen]
  · rw [mask_eq, seenDual, full.dual.proper.mask_eq_map_holds]
    exact List.map_congr_left fun record _ => by rw [holds_eq, seenDual]

/-- What has several colors. -/
def multicolored : Predicate :=
  ⟨.colors, .count, .order .greater, "1"⟩

/-- What is called an elf. -/
def elvish : Predicate :=
  ⟨.name, .none, .includes, "elf"⟩

/-- A union of two tests, with its node in front of theirs. -/
def multicoloredOrElvish : QueryTree where
  nodes := #[.group .union [⟨1⟩, ⟨2⟩], .test multicolored, .test elvish]
  root := ⟨0⟩

/-- A record of a name and of some colors. -/
def painted (name : String) (colors : List String) : Record where
  id := ⟨0⟩
  field
    | .name => .text name
    | .colors => .list colors
    | _ => .absent
  sortField _ := .absent

/-- The dual of the tree selects what the tree leaves out, and leaves out what the tree selects. -/
theorem opposed_dual_painted :
    multicoloredOrElvish.mask .strict [painted "Goblin" ["R"], painted "Elf" ["G"]] = [false, true] ∧
      multicoloredOrElvish.dual.mask .strict [painted "Goblin" ["R"], painted "Elf" ["G"]] =
        [true, false] := by
  -- The nodes stand for a union of the two tests.
  have stands : multicoloredOrElvish.nodes.StandsFor ⟨0⟩
      (.group .union [.test multicolored, .test elvish]) :=
    @Nodes.StandsFor.group _ ⟨0⟩ .union [⟨1⟩, ⟨2⟩]
      (fun child => if child.index = 1 then .test multicolored else .test elvish) rfl <| by
        rw [List.forall_mem_cons, List.forall_mem_singleton]
        exact ⟨.test rfl, .test rfl⟩
  have full : (Query.group .union [.test multicolored, .test elvish]).Full := by
    refine .group .union (by simp) ?_
    rw [List.forall_mem_cons, List.forall_mem_singleton]
    exact ⟨.test _, .test _⟩
  -- The colors are counted, and the pattern has a name to look at.
  have decisive (name color : String) :
      ∀ p ∈ [multicolored, elvish], p.Decisive ((painted name [color]).field p.key) := by
    have counted : multicolored.number? (.list [color]) =
        (FieldValue.number (Float.ofNat 1)).asNumber? := by
      simp [Predicate.number?, multicolored]
    have literal : (Decimal.readFinite? "1").isSome = true := by decide +kernel
    have length : (multicolored.number? (.list [color])).isSome = true := by
      rw [counted]
      decide +kernel
    have compiled : (Pattern.compile? "elf").isSome = true := by decide +kernel
    rw [List.forall_mem_cons, List.forall_mem_singleton]
    exact ⟨⟨length, literal⟩, compiled, by simp [painted, elvish]⟩
  obtain ⟨opposite, masks⟩ := opposed_dual stands .strict
  obtain ⟨mask, dualMask⟩ := masks full [painted "Goblin" ["R"], painted "Elf" ["G"]]
  have goblin : multicoloredOrElvish.holds .strict (painted "Goblin" ["R"]) = false := by
    decide +kernel
  have elf : multicoloredOrElvish.holds .strict (painted "Elf" ["G"]) = true := by
    decide +kernel
  rw [mask, dualMask]
  simp only [List.map_cons, List.map_nil, (opposite _).2 (decisive _ _), goblin, elf, Bool.not_false,
    Bool.not_true, and_self]

/-- A pattern has nothing to look at where the name is missing, and neither it nor its dual passes. -/
example : (ofPredicate elvish).holds .strict ⟨⟨0⟩, fun _ => .absent, fun _ => .absent⟩ = false ∧
    (ofPredicate elvish).dual.holds .strict ⟨⟨0⟩, fun _ => .absent, fun _ => .absent⟩ = false := by
  decide +kernel

end QueryTree

end Decksmith
