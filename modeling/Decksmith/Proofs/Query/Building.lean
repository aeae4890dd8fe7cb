import Decksmith.Proofs.Query.Layout

/-! Trees that are built node by node, and that all operations on trees build. -/

namespace Decksmith

namespace Nodes

/-- Nodes that are added one by one, each group behind its children. -/
inductive Built : Nodes → Prop where
  | empty : Built #[]
  | predicate {nodes : Nodes} (built : Built nodes) (p : Predicate) :
      Built (nodes.add (.test p)).1
  | compound {nodes : Nodes} (built : Built nodes) (relation : SetRelation)
      {children : List NodeId} (earlier : ∀ child ∈ children, child.index < nodes.size) :
      Built (nodes.addGroup relation children).1

/-- No group of the nodes has a single child. -/
def Compact (nodes : Nodes) : Prop :=
  ∀ (index : Nat) (relation : SetRelation) (children : List NodeId),
    nodes[index]? = some (.group relation children) → children.length ≠ 1

/-- It suffices to count the children of every node. -/
theorem compact_of_children {nodes : Nodes} (several : ∀ node ∈ nodes, node.children.length ≠ 1) :
    nodes.Compact := by
  intro index relation children found
  exact several _ (Array.mem_of_getElem? found)

/-- What compact nodes stand for is compact. -/
theorem StandsFor.compact {nodes : Nodes} {id : NodeId} {query : Query}
    (stands : nodes.StandsFor id query) (compact : nodes.Compact) : query.Compact := by
  -- A group has as many operands as its node has children.
  induction stands with
  | test _ => exact .test _
  | @group id relation children query found parts ih =>
    have several := compact id.index relation children found
    refine .group relation (by simpa using several) fun operand member => ?_
    obtain ⟨child, here, rfl⟩ := List.mem_map.mp member
    exact ih child here

/-- Nodes that are added one by one are compact. -/
theorem Built.compact {nodes : Nodes} (built : nodes.Built) : nodes.Compact := by
  -- A further node leaves the others as they are, so only the new one is in question.
  have further : ∀ {nodes : Nodes} {node : Node}, nodes.Compact →
      (∀ relation children, node = .group relation children → children.length ≠ 1) →
      (nodes.add node).1.Compact := by
    intro nodes node compact new index relation children found
    rw [add, Array.getElem?_push] at found
    split at found
    · exact new relation children (Option.some.inj found)
    · exact compact index relation children found
  induction built with
  | empty =>
    intro index relation children found
    simp at found
  | predicate _ p ih =>
    refine further ih fun _ _ same => ?_
    cases same
  | @compound nodes _ relation children earlier ih =>
    -- A single child adds no node.
    by_cases single : children.length = 1
    · obtain ⟨child, rfl⟩ := List.length_eq_one_iff.mp single
      exact ih
    · rw [addGroup_of_length_ne nodes relation single]
      refine further ih fun _ _ same => ?_
      cases same
      exact single

/-- Nodes that are added one by one stand each for a query, because children stand in front of their groups. -/
theorem Built.exists_stands {nodes : Nodes} (built : nodes.Built) :
    ∀ id : NodeId, id.index < nodes.size → ∃ query, nodes.StandsFor id query := by
  -- With a further node, only the query of that one is in question.
  have further : ∀ {nodes : Nodes} {node : Node},
      (∀ id : NodeId, id.index < nodes.size → ∃ query, nodes.StandsFor id query) →
      (∃ query, (nodes.add node).1.StandsFor (nodes.add node).2 query) →
      ∀ id : NodeId, id.index < (nodes.add node).1.size →
        ∃ query, (nodes.add node).1.StandsFor id query := by
    intro nodes node earlier new id within
    simp only [add, Array.size_push] at within
    rcases Nat.lt_or_eq_of_le (Nat.le_of_lt_succ within) with before | last
    · obtain ⟨query, stands⟩ := earlier id before
      exact ⟨query, stands.keeps (nodes.keeps_add node)⟩
    · obtain rfl : id = ⟨nodes.size⟩ := congrArg NodeId.mk last
      exact new
  induction built with
  | empty =>
    intro id within
    simp at within
  | @predicate nodes _ p ih => exact further ih ⟨_, .test (nodes.getElem?_add (.test p))⟩
  | @compound nodes _ relation children earlier ih =>
    by_cases single : children.length = 1
    · obtain ⟨child, rfl⟩ := List.length_eq_one_iff.mp single
      exact ih
    · rw [addGroup_of_length_ne nodes relation single]
      refine further ih ⟨_, .group (nodes.queryAt nodes.size) (nodes.getElem?_add _) ?_⟩
      intro child member
      -- A child stands for a query already, and that is the one which is seen from it.
      obtain ⟨query, stands⟩ := ih child (earlier child member)
      rw [stands.queryAt_size]
      exact stands.keeps (nodes.keeps_add _)

/-- A group keeps the nodes in front of it and is one of the nodes. -/
theorem addGroup_size (nodes : Nodes) (relation : SetRelation) {children : List NodeId}
    (earlier : ∀ child ∈ children, child.index < nodes.size) :
    nodes.size ≤ (nodes.addGroup relation children).1.size ∧
      (nodes.addGroup relation children).2.index < (nodes.addGroup relation children).1.size := by
  -- A group of one child adds nothing and is that child.
  by_cases single : children.length = 1
  · obtain ⟨child, rfl⟩ := List.length_eq_one_iff.mp single
    exact ⟨Nat.le_refl _, earlier child (by simp)⟩
  · rw [addGroup_of_length_ne nodes relation single]
    simp [add]

mutual

/-- Laying out a query builds its nodes, behind those that are there already. -/
theorem Built.plant {nodes : Nodes} (built : nodes.Built) (query : Query) :
    (nodes.plant query).1.Built ∧ nodes.size ≤ (nodes.plant query).1.size ∧
      (nodes.plant query).2.index < (nodes.plant query).1.size := by
  match query with
  | .test p => exact ⟨built.predicate p, by simp [Nodes.plant, add], by simp [Nodes.plant, add]⟩
  | .group relation operands =>
    -- The operands stand in front of the node of their group.
    obtain ⟨planted, larger, earlier⟩ := built.plantAll operands
    obtain ⟨kept, here⟩ := addGroup_size _ relation earlier
    exact ⟨planted.compound relation earlier, Nat.le_trans larger kept, here⟩

/-- Laying out queries builds the nodes of each. -/
theorem Built.plantAll {nodes : Nodes} (built : nodes.Built) (queries : List Query) :
    (nodes.plantAll queries).1.Built ∧ nodes.size ≤ (nodes.plantAll queries).1.size ∧
      ∀ id ∈ (nodes.plantAll queries).2, id.index < (nodes.plantAll queries).1.size := by
  match queries with
  | [] => exact ⟨built, Nat.le_refl _, by simp [Nodes.plantAll]⟩
  | query :: others =>
    obtain ⟨first, larger, here⟩ := built.plant query
    -- The nodes of the first query are still there when the others have been laid out.
    obtain ⟨all, further, rest⟩ := first.plantAll others
    refine ⟨all, Nat.le_trans larger further, ?_⟩
    simp only [Nodes.plantAll, List.forall_mem_cons]
    exact ⟨Nat.lt_of_lt_of_le here further, rest⟩

end

end Nodes

namespace QueryTree

/-- A tree whose nodes are built, with one of them as its root. -/
structure Built (tree : QueryTree) : Prop where
  nodes : tree.nodes.Built
  root : tree.root.index < tree.nodes.size

/-- A tree that is evaluated without fault: its root stands for a query, and no group has a single child. Its
nodes may be in any order, they may have several parents, and some may be out of reach. -/
structure Formed (tree : QueryTree) : Prop where
  compact : tree.nodes.Compact
  rooted : ∃ query, tree.nodes.StandsFor tree.root query

/-- The root of a tree stands for its query. -/
theorem Formed.stands {tree : QueryTree} (formed : tree.Formed) :
    tree.nodes.StandsFor tree.root tree.toQuery := by
  obtain ⟨query, stands⟩ := formed.rooted
  rw [toQuery_eq stands]
  exact stands

/-- The query of a tree is compact. -/
theorem Formed.compact_toQuery {tree : QueryTree} (formed : tree.Formed) : tree.toQuery.Compact :=
  formed.stands.compact formed.compact

/-- A built tree is evaluated without fault. -/
theorem Built.formed {tree : QueryTree} (built : tree.Built) : tree.Formed where
  compact := built.nodes.compact
  rooted := built.nodes.exists_stands tree.root built.root

/-- The layout of a query builds a tree. -/
theorem ofQuery_built (query : Query) : (ofQuery query).Built := by
  obtain ⟨nodes, -, root⟩ := Nodes.Built.empty.plant query
  exact ⟨nodes, root⟩

/-- Parsing builds a tree. -/
theorem parse_built {text : String} {tree : QueryTree} (parsed : parse text = .ok tree) :
    tree.Built := by
  obtain ⟨query, -, rfl⟩ := parse_eq_ok_iff.mp parsed
  exact ofQuery_built query

/-- Combining built trees builds a tree. -/
theorem combine_built {relation : SetRelation} {trees : List QueryTree} {tree : QueryTree}
    (built : ∀ part ∈ trees, part.Built) (combined : combine relation trees = some tree) :
    tree.Built := by
  match trees with
  | [] => cases combined
  | [_] =>
    cases combined
    exact built tree (by simp)
  -- Several trees are laid out again, in one piece.
  | first :: second :: others =>
    rw [combine_eq] at combined
    cases combined
    exact ofQuery_built _

/-- Joining two trees builds a tree. -/
theorem join_built (relation : SetRelation) (left right : QueryTree) :
    (join relation left right).Built := by
  rw [join_eq]
  exact ofQuery_built _

end QueryTree

end Decksmith
