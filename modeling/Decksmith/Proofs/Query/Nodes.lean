import Decksmith.Query.Tree
import Mathlib.Combinatorics.Enumerative.DoubleCounting
import Mathlib.Order.Interval.Finset.Nat

/-! The query that a node stands for, in whatever order the nodes are stored and however often one of them is
shared. -/

namespace Decksmith

namespace Query

mutual

/-- The number of levels of a query. -/
def height : Query → Nat
  | test _ => 1
  | group _ operands => heightOf operands + 1

/-- The number of levels of the highest of some queries. -/
def heightOf : List Query → Nat
  | [] => 0
  | query :: others => max (height query) (heightOf others)

end

theorem height_pos (query : Query) : 0 < query.height := by
  cases query <;> simp [height]

/-- No query is higher than the highest one. -/
theorem height_le_heightOf {query : Query} {queries : List Query} (member : query ∈ queries) :
    query.height ≤ heightOf queries := by
  -- The height of the list is the larger one of its head's and of the rest.
  induction queries with
  | nil => cases member
  | cons first others ih =>
    rw [heightOf]
    rcases List.mem_cons.mp member with rfl | later
    · exact Nat.le_max_left _ _
    · exact (ih later).trans (Nat.le_max_right _ _)

/-- Some query is the highest one. -/
theorem exists_height_eq {queries : List Query} (some : queries ≠ []) :
    ∃ query ∈ queries, query.height = heightOf queries := by
  induction queries with
  | nil => exact absurd rfl some
  | cons first others ih =>
    rw [heightOf]
    rcases Nat.le_total (heightOf others) first.height with lower | higher
    · exact ⟨first, List.mem_cons_self .., (Nat.max_eq_left lower).symm⟩
    -- The head is lower than the rest, so there is a rest, since every query has a height.
    · have rest : others ≠ [] := by
        rintro rfl
        exact absurd higher (Nat.not_le.mpr first.height_pos)
      obtain ⟨query, member, highest⟩ := ih rest
      exact ⟨query, List.mem_cons_of_mem first member, by rw [highest, Nat.max_eq_right higher]⟩

end Query

namespace Nodes

/-- A node stands for a query: its predicate, or the group of what its children stand for. -/
inductive StandsFor (nodes : Nodes) : NodeId → Query → Prop where
  | test {id : NodeId} {p : Predicate} (found : nodes[id.index]? = some (.test p)) :
      StandsFor nodes id (.test p)
  | group {id : NodeId} {relation : SetRelation} {children : List NodeId} (query : NodeId → Query)
      (found : nodes[id.index]? = some (.group relation children))
      (parts : ∀ child ∈ children, StandsFor nodes child (query child)) :
      StandsFor nodes id (.group relation (children.map query))

variable {nodes : Nodes} {id : NodeId} {query : Query}

/-- A node stands for one query only. -/
theorem StandsFor.unique {other : Query} (stands : nodes.StandsFor id query)
    (also : nodes.StandsFor id other) : query = other := by
  -- The node decides which of the two ways applies, and in a group each child decides its operand.
  induction stands generalizing other with
  | test found =>
    cases also with
    | test same => rw [found] at same; cases same; rfl
    | group _ same _ => rw [found] at same; cases same
  | @group _ _ children query found parts ih =>
    cases also with
    | test same => rw [found] at same; cases same
    | group others same parts =>
      rw [found] at same
      cases same
      rw [List.map_congr_left fun child member => ih child member (parts child member)]

/-- A node that stands for a query is one of the nodes. -/
theorem StandsFor.index_lt (stands : nodes.StandsFor id query) : id.index < nodes.size := by
  cases stands with
  | test found => exact (Array.getElem?_eq_some_iff.mp found).1
  | group _ found _ => exact (Array.getElem?_eq_some_iff.mp found).1

/-- The whole query of a node is seen from it at a depth that is at least its height. -/
theorem StandsFor.queryAt_eq (stands : nodes.StandsFor id query) {depth : Nat}
    (deep : query.height ≤ depth) : nodes.queryAt depth id = query := by
  -- The induction is on what the node stands for; every level takes one from the depth.
  induction stands generalizing depth with
  | test found =>
    cases depth with
    | zero => simp [Query.height] at deep
    | succ depth => simp only [queryAt, found]
  | @group _ _ children query found parts ih =>
    cases depth with
    | zero => simp [Query.height] at deep
    | succ depth =>
      have lower : Query.heightOf (children.map query) ≤ depth := Nat.le_of_succ_le_succ deep
      simp only [queryAt, found, Query.group.injEq, true_and]
      refine List.map_congr_left fun child member => ih child member ?_
      exact (Query.height_le_heightOf (List.mem_map_of_mem member)).trans lower

/-- Below a node there is a node of every smaller height. -/
theorem StandsFor.exists_height (stands : nodes.StandsFor id query) {level : Nat}
    (positive : 0 < level) (below : level ≤ query.height) :
    ∃ id query, nodes.StandsFor id query ∧ query.height = level := by
  -- The group is one level above its highest operand, so every level in between is found below that one.
  induction stands with
  | @test id p found =>
    exact ⟨id, .test p, .test found, Nat.le_antisymm positive below⟩
  | @group id relation children query found parts ih =>
    rcases Nat.eq_or_lt_of_le below with top | lower
    · exact ⟨id, _, .group query found parts, top.symm⟩
    · -- The highest operand reaches every level below that of the group.
      have within : level ≤ Query.heightOf (children.map query) := Nat.le_of_lt_succ lower
      have some : children.map query ≠ [] := by
        intro none
        rw [none] at within
        exact absurd within (Nat.not_le.mpr positive)
      obtain ⟨highest, member, height⟩ := Query.exists_height_eq some
      obtain ⟨child, here, rfl⟩ := List.mem_map.mp member
      exact ih child here (height ▸ within)

/-- A query is no higher than there are nodes, because nodes of different heights are different. -/
theorem StandsFor.height_le (stands : nodes.StandsFor id query) : query.height ≤ nodes.size := by
  -- Every level is related to the nodes of that height, and no node is related to two levels.
  have levels : (Finset.Icc 1 query.height).card ≤ (Finset.range nodes.size).card := by
    refine Finset.card_le_card_of_forall_subsingleton
      (fun level index => ∃ query, nodes.StandsFor ⟨index⟩ query ∧ query.height = level) ?_ ?_
    · intro level within
      obtain ⟨positive, below⟩ := Finset.mem_Icc.mp within
      obtain ⟨node, part, stands, height⟩ := stands.exists_height positive below
      exact ⟨node.index, Finset.mem_range.mpr stands.index_lt, part, stands, height⟩
    · -- One node stands for one query, which has one height.
      rintro index - level ⟨-, part, stands, rfl⟩ other ⟨-, same, also, rfl⟩
      rw [stands.unique also]
  simpa using levels

/-- Some nodes are still there, at their numbers, in a later state. -/
def Keeps (nodes later : Nodes) : Prop :=
  ∀ (index : Nat) (node : Node), nodes[index]? = some node → later[index]? = some node

theorem Keeps.refl (nodes : Nodes) : nodes.Keeps nodes := fun _ _ found => found

theorem Keeps.trans {nodes middle later : Nodes} (first : nodes.Keeps middle)
    (second : middle.Keeps later) : nodes.Keeps later :=
  fun index node found => second index node (first index node found)

/-- A further node leaves the others at their numbers. -/
theorem keeps_add (nodes : Nodes) (node : Node) : nodes.Keeps (nodes.add node).1 := by
  intro index old found
  -- The new node stands behind all that have a number already.
  obtain ⟨within, -⟩ := Array.getElem?_eq_some_iff.mp found
  rw [add, Array.getElem?_push_lt within, ← Array.getElem?_eq_getElem within, found]

/-- A further node is found at its number. -/
@[simp] theorem getElem?_add (nodes : Nodes) (node : Node) :
    (nodes.add node).1[(nodes.add node).2.index]? = some node := by
  simp [add]

/-- What a node stands for, it stands for as long as the nodes are kept. -/
theorem StandsFor.keeps {later : Nodes} (stands : nodes.StandsFor id query)
    (kept : nodes.Keeps later) : later.StandsFor id query := by
  -- All that a node stands for is found among the old nodes.
  induction stands with
  | test found => exact .test (kept _ _ found)
  | group query found _ ih => exact .group query (kept _ _ found) ih

/-- What a node stands for is seen from it at the depth of all nodes. -/
theorem StandsFor.queryAt_size (stands : nodes.StandsFor id query) :
    nodes.queryAt nodes.size id = query :=
  stands.queryAt_eq stands.height_le

/-- A group stands for the queries of its children in their order. -/
theorem StandsFor.of_children {relation : SetRelation} {children : List NodeId} {operands : List Query}
    (found : nodes[id.index]? = some (.group relation children))
    (parts : List.Forall₂ nodes.StandsFor children operands) :
    nodes.StandsFor id (.group relation operands) := by
  -- A child that is listed twice stands for one query, so there is a query for every number.
  have listed : children.map (nodes.queryAt nodes.size) = operands ∧
      ∀ child ∈ children, nodes.StandsFor child (nodes.queryAt nodes.size child) := by
    -- The induction goes along both lists, and every child is seen as its own operand.
    clear found
    induction parts with
    | nil => simp
    | cons first _ ih =>
      obtain ⟨mapped, others⟩ := ih
      refine ⟨?_, List.forall_mem_cons.mpr ⟨?_, others⟩⟩
      · rw [List.map_cons, first.queryAt_size, mapped]
      · rw [first.queryAt_size]
        exact first
  obtain ⟨rfl, stands⟩ := listed
  exact .group _ found stands

/-- A group stands for what its children stand for. -/
theorem StandsFor.group_children {relation : SetRelation} {children : List NodeId}
    (stands : nodes.StandsFor id query)
    (found : nodes[id.index]? = some (.group relation children)) :
    query = .group relation (children.map (nodes.queryAt nodes.size)) ∧
      ∀ child ∈ children, nodes.StandsFor child (nodes.queryAt nodes.size child) := by
  cases stands with
  | test same => rw [found] at same; cases same
  | @group _ _ _ query same parts =>
    rw [found] at same
    cases same
    -- What a child stands for is what is seen from it.
    have seen : ∀ child ∈ children, query child = nodes.queryAt nodes.size child :=
      fun child member => (parts child member).queryAt_size.symm
    refine ⟨by rw [List.map_congr_left seen], fun child member => ?_⟩
    rw [← seen child member]
    exact parts child member

/-- No child of a group is the group itself. -/
theorem StandsFor.child_ne {relation : SetRelation} {children : List NodeId} {child : NodeId}
    (stands : nodes.StandsFor id query)
    (found : nodes[id.index]? = some (.group relation children)) (member : child ∈ children) :
    child ≠ id := by
  rintro rfl
  obtain ⟨rfl, parts⟩ := stands.group_children found
  -- Otherwise the query would be one of its own operands, and higher than itself.
  have same := (parts child member).unique stands
  have lower := Query.height_le_heightOf (List.mem_map_of_mem (f := nodes.queryAt nodes.size) member)
  rw [same, Query.height] at lower
  omega

/-- Conversely, what stands for a group is a group of nodes that stand for its operands. -/
theorem StandsFor.exists_children {relation : SetRelation} {operands : List Query}
    (stands : nodes.StandsFor id (.group relation operands)) :
    ∃ children, nodes[id.index]? = some (.group relation children) ∧
      List.Forall₂ nodes.StandsFor children operands := by
  cases stands with
  | @group _ _ children query found parts =>
    refine ⟨children, found, ?_⟩
    -- The queries of the children are those that their numbers stand for.
    rw [List.forall₂_map_right_iff, List.forall₂_same]
    exact parts

end Nodes

namespace QueryTree

variable {tree : QueryTree}

/-- The depth of a tree never falls short: its query is what its root stands for as a whole. -/
theorem toQuery_eq {query : Query} (stands : tree.nodes.StandsFor tree.root query) :
    tree.toQuery = query :=
  stands.queryAt_size

end QueryTree

end Decksmith
