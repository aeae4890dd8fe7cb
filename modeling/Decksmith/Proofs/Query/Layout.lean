import Decksmith.Proofs.Query.Grammar
import Decksmith.Proofs.Query.Nodes

/-! Laying a query out as nodes gives a node that stands for the same query. -/

namespace Decksmith

namespace Query

mutual

/-- Two queries have the same shape and the same predicates only if they are equal. -/
@[simp] theorem same_iff (a b : Query) : a.same b = true ↔ a = b := by
  -- Shapes are compared level by level, along with the mutual recursion over the operands.
  match a, b with
  | .test p, .test q => simp [same]
  | .group r ps, .group s qs => simp [same, sameAll_iff ps qs]
  | .test _, .group _ _ => simp [same]
  | .group _ _, .test _ => simp [same]

/-- Two lists of queries agree item by item only if they are equal. -/
theorem sameAll_iff (ps qs : List Query) : sameAll ps qs = true ↔ ps = qs := by
  -- The cases are those of the comparison: both lists go on, both end, or only one of them does.
  match ps, qs with
  | [], [] => simp [sameAll]
  | p :: ps, q :: qs => simp [sameAll, same_iff p q, sameAll_iff ps qs]
  | [], _ :: _ => simp [sameAll]
  | _ :: _, [] => simp [sameAll]

end

/-- A query in which no group has a single operand. -/
inductive Compact : Query → Prop where
  | test (predicate : Predicate) : Compact (test predicate)
  | group (relation : SetRelation) {operands : List Query} (several : operands.length ≠ 1)
      (parts : ∀ query ∈ operands, Compact query) : Compact (group relation operands)

/-- A group of compact operands is compact, and a single operand is so by itself. -/
theorem Compact.ofOperands {relation : SetRelation} {operands : List Query}
    (parts : ∀ query ∈ operands, Compact query) : Compact (ofOperands relation operands) := by
  match operands with
  | [] => exact .group relation (by simp) parts
  -- A single operand is not wrapped at all.
  | [query] => exact parts query (by simp)
  | first :: second :: others => exact .group relation (by simp) parts

/-- A derived query is compact. -/
theorem Disjunction.compact {tokens : List Token} {query : Query}
    (derived : Disjunction tokens query) : query.Compact := by
  -- Only the grouping of operands could give a group of one, and it does not.
  have closed : Closed fun _ operands => ∀ operand ∈ operands, Compact operand :=
    { expression := fun _ => by simpa using .test _
      bracketed := fun inner => inner
      join := fun _ _ _ _ _ first others => List.forall_mem_cons.mpr ⟨first _ (by simp), others⟩
      chain := fun _ _ _ parts => by simpa using Compact.ofOperands parts }
  exact derived.induct closed query (by simp)

end Query

namespace Nodes

/-- A group that does not collapse is a further node. -/
theorem addGroup_of_length_ne (nodes : Nodes) (relation : SetRelation) {children : List NodeId}
    (several : children.length ≠ 1) :
    nodes.addGroup relation children = nodes.add (.group relation children) := by
  -- A group of one child is that child, and any other group is stored.
  match children with
  | [] => rfl
  | [child] => simp at several
  | first :: second :: others => rfl

/-- A group of nodes that stand for several queries stands for the group of these. -/
theorem addGroup_stands {nodes : Nodes} (relation : SetRelation) {children : List NodeId}
    {operands : List Query} (several : operands.length ≠ 1)
    (parts : List.Forall₂ nodes.StandsFor children operands) :
    nodes.Keeps (nodes.addGroup relation children).1 ∧
      (nodes.addGroup relation children).1.StandsFor (nodes.addGroup relation children).2
        (.group relation operands) := by
  -- There are as many children as queries, so the group does not collapse.
  have count : children.length ≠ 1 := by rwa [parts.length_eq]
  rw [addGroup_of_length_ne nodes relation count]
  have kept := nodes.keeps_add (.group relation children)
  refine ⟨kept, .of_children (nodes.getElem?_add _) ?_⟩
  exact parts.imp fun child query stands => stands.keeps kept

mutual

/-- Laying out a query keeps the nodes in front of it and ends at a node that stands for it. -/
theorem plant_stands (nodes : Nodes) {query : Query} (compact : query.Compact) :
    nodes.Keeps (nodes.plant query).1 ∧
      (nodes.plant query).1.StandsFor (nodes.plant query).2 query := by
  match query with
  | .test p => exact ⟨nodes.keeps_add (.test p), .test (nodes.getElem?_add (.test p))⟩
  | .group relation operands =>
    cases compact with
    | group _ several parts =>
      -- A compact group gets a node behind those of its operands.
      obtain ⟨kept, stand⟩ := plantAll_stands nodes parts
      obtain ⟨further, group⟩ := addGroup_stands relation several stand
      exact ⟨kept.trans further, group⟩

/-- Laying out queries keeps the nodes in front of them and gives a node for each. -/
theorem plantAll_stands (nodes : Nodes) {queries : List Query}
    (compact : ∀ query ∈ queries, query.Compact) :
    nodes.Keeps (nodes.plantAll queries).1 ∧
      List.Forall₂ (nodes.plantAll queries).1.StandsFor (nodes.plantAll queries).2 queries := by
  match queries with
  | [] => exact ⟨.refl nodes, .nil⟩
  | query :: others =>
    -- What the first query has left is kept while the others are laid out.
    obtain ⟨first, rest⟩ := List.forall_mem_cons.mp compact
    obtain ⟨kept, stands⟩ := plant_stands nodes first
    obtain ⟨further, stand⟩ := plantAll_stands (nodes.plant query).1 rest
    exact ⟨kept.trans further, .cons (stands.keeps further) stand⟩

end

/-- To append items one after the other is to lay out queries, if that is what every single item does. -/
theorem addEach_eq_plantAll {α : Type} {step : Nodes → α → Nodes × NodeId} {query : α → Query}
    (same : ∀ nodes item, step nodes item = nodes.plant (query item)) (nodes : Nodes)
    (items : List α) : addEach step nodes items = nodes.plantAll (items.map query) := by
  -- Every item starts from the nodes that those in front of it have left.
  induction items generalizing nodes with
  | nil => rfl
  | cons item others ih => rw [addEach, same, ih, List.map_cons, plantAll]

/-- A copy of a node is laid out in the way of the query that is seen from the node. -/
theorem graft_eq_plant (nodes : Nodes) (depth : Nat) (others : Nodes) (id : NodeId) :
    nodes.graft depth others id = others.plant (nodes.queryAt depth id) := by
  -- Both go down one level at a time, so the induction is on the depth.
  induction depth generalizing others id with
  | zero => rfl
  | succ depth ih =>
    rw [graft, queryAt]
    cases nodes[id.index]? with
    | none => rfl
    | some node =>
      cases node with
      | test p => rfl
      | group relation children => simp only [plant, addEach_eq_plantAll ih]

end Nodes

namespace QueryTree

/-- A copy of a tree is laid out in the way of its query. -/
theorem graftOnto_eq_plant (others : Nodes) (tree : QueryTree) :
    graftOnto others tree = others.plant tree.toQuery :=
  tree.nodes.graft_eq_plant tree.nodes.size others tree.root

/-- Several trees are combined to the layout of the group of their queries. -/
theorem combine_eq (relation : SetRelation) (first second : QueryTree) (others : List QueryTree) :
    combine relation (first :: second :: others) =
      some (ofQuery (.group relation ((first :: second :: others).map toQuery))) := by
  simp only [combine, Nodes.addEach_eq_plantAll graftOnto_eq_plant, ofQuery, Nodes.plant]

/-- Two trees are joined to the layout of the group of their queries. -/
theorem join_eq (relation : SetRelation) (left right : QueryTree) :
    join relation left right = ofQuery (.group relation [left.toQuery, right.toQuery]) := by
  simp only [join, graftOnto_eq_plant, ofQuery, Nodes.plant, Nodes.plantAll]

/-- The tree of a compact query stands for that query. -/
theorem toQuery_ofQuery {query : Query} (compact : query.Compact) :
    (ofQuery query).toQuery = query :=
  toQuery_eq (Nodes.plant_stands #[] compact).2

/-- Parsing lays out the query that the structural tokens derive. -/
theorem parse_eq_ok_iff {text : String} {tree : QueryTree} :
    parse text = .ok tree ↔
      ∃ query, Query.Disjunction (Token.split text.toList) query ∧ tree = ofQuery query := by
  unfold parse Query.parse
  constructor
  -- The layout never fails, so a tree comes from tokens that were read.
  · intro parsed
    cases read : Query.ofTokens (Token.split text.toList) with
    | error fault => simp [read, Except.map] at parsed
    | ok query =>
      rw [read] at parsed
      cases parsed
      exact ⟨query, Query.ofTokens_ok_iff.mp read, rfl⟩
  -- Conversely, what is derived is read and laid out.
  · rintro ⟨query, derived, rfl⟩
    rw [Query.ofTokens_ok_iff.mpr derived]
    rfl

/-- Parsing accepts exactly the texts whose structural tokens derive a query, and the tree that it gives
stands for that query. -/
theorem parse_ok_iff_derived (text : String) (query : Query) :
    (∃ tree, parse text = .ok tree ∧ tree.toQuery = query) ↔
      Query.Disjunction (Token.split text.toList) query := by
  constructor
  · rintro ⟨tree, parsed, rfl⟩
    -- The query of the tree is the one that was derived, because derived queries are compact.
    obtain ⟨query, derived, rfl⟩ := parse_eq_ok_iff.mp parsed
    rwa [toQuery_ofQuery derived.compact]
  · intro derived
    exact ⟨ofQuery query, parse_eq_ok_iff.mpr ⟨query, derived, rfl⟩,
      toQuery_ofQuery derived.compact⟩

end QueryTree

end Decksmith
