import Decksmith.Proofs.Query.Balance
import Decksmith.Proofs.Query.Evaluation

/-! How the nodes of a tree are arranged: children stand in front of their groups, every node but the root has
one parent, and the predicates stand in the order of the text. -/

namespace Decksmith

/-- The predicate of a node. -/
def Node.predicate? : Node → Option Predicate
  | test p => some p
  | group _ _ => none

namespace Query

/-- A text in which some predicates are written one after the other, with nothing but brackets, operators and
blanks around them. -/
inductive Writes : List Predicate → List Char → Prop where
  | nil : Writes [] []
  | mark {c : Char} {predicates : List Predicate} {text : List Char}
      (structural : c ∈ ['[', ']', '&', '|', ' ']) (rest : Writes predicates text) :
      Writes predicates (c :: text)
  | predicate (p : Predicate) {predicates : List Predicate} {text : List Char}
      (rest : Writes predicates text) : Writes (p :: predicates) (p.render.toList ++ text)

/-- Texts of predicates stand one behind the other. -/
theorem Writes.append {front back : List Predicate} {text more : List Char}
    (first : Writes front text) (second : Writes back more) : Writes (front ++ back) (text ++ more) := by
  -- The induction goes along the text in front, which ends where the other one begins.
  induction first with
  | nil => exact second
  | mark structural _ ih => exact .mark structural ih
  | predicate p _ ih =>
    rw [List.cons_append, List.append_assoc]
    exact .predicate p ih

/-- Brackets, operators and blanks alone write no predicate. -/
theorem Writes.marks {text : List Char} (structural : ∀ c ∈ text, c ∈ ['[', ']', '&', '|', ' ']) :
    Writes [] text := by
  -- Character by character, nothing is written but structure.
  induction text with
  | nil => exact .nil
  | cons c rest ih =>
    obtain ⟨first, others⟩ := List.forall_mem_cons.mp structural
    exact .mark first (ih others)

/-- A closing bracket may follow a text of predicates. -/
theorem Writes.closed {front : List Predicate} {text : List Char} (inside : Writes front text) :
    Writes front (text ++ [']']) := by
  have bracket : Writes [] [']'] := .marks (by simp)
  simpa using inside.append bracket

mutual

/-- The text of a query writes its predicates from left to right. -/
theorem writes_render (query : Query) : Writes query.predicates query.render.toList := by
  match query with
  | .test p => simpa [predicates, render] using Writes.predicate p .nil
  | .group _ [] => simpa [predicates, predicatesOf, render] using Writes.nil
  | .group relation (first :: others) =>
    -- The first operand stands in brackets, and the others follow behind their operators.
    have bracketed : Writes first.predicates ('[' :: (first.render.toList ++ [']'])) :=
      .mark (by simp) (writes_render first).closed
    have whole := bracketed.append (writes_renderRest relation others)
    simpa [predicates, predicatesOf, render] using whole

/-- The text of further operands writes their predicates from left to right. -/
theorem writes_renderRest (relation : SetRelation) (operands : List Query) :
    Writes (predicatesOf operands) (renderRest relation operands).toList := by
  match operands with
  | [] => simpa [predicatesOf, renderRest] using Writes.nil
  | operand :: others =>
    -- In front of the operand stand its operator and a bracket.
    have opening : Writes [] (' ' :: (relation.operator.toList ++ [' ', '['])) := by
      refine .marks ?_
      cases relation <;> simp [SetRelation.operator]
    have bracketed := opening.append (writes_render operand).closed
    have whole := bracketed.append (writes_renderRest relation others)
    simpa [predicatesOf, renderRest] using whole

end

end Query

namespace Nodes

/-- Nodes that have been laid out from a number on, with the roots that nothing lists yet and the predicates
from left to right. -/
structure Block (offset : Nat) (block : List Node) (roots : List NodeId) (leaves : List Predicate) :
    Prop where
  /-- Children and roots together are the nodes, each of them once. -/
  numbered : (block.flatMap Node.children ++ roots).Perm
    ((List.range' offset block.length).map NodeId.mk)
  /-- Children stand in front of their group. -/
  earlier : ∀ index node, block[index]? = some node →
    ∀ child ∈ node.children, child.index < offset + index
  /-- A group has more than one child. -/
  branching : ∀ relation children, .group relation children ∈ block → 2 ≤ children.length
  leaves : block.filterMap Node.predicate? = leaves

namespace Block

variable {offset : Nat} {block more : List Node} {roots others : List NodeId}
  {leaves further : List Predicate}

/-- No nodes have been laid out. -/
theorem empty (offset : Nat) : Block offset [] [] [] where
  numbered := by simp
  earlier := by simp
  branching := by simp
  leaves := rfl

/-- A single predicate is its own root. -/
theorem test (offset : Nat) (p : Predicate) : Block offset [.test p] [⟨offset⟩] [p] where
  numbered := by simp [Node.children]
  earlier := by
    intro index node found child member
    -- A predicate has no children.
    obtain ⟨-, rfl⟩ : index = 0 ∧ node = .test p := by
      cases index <;> simp_all
    simp [Node.children] at member
  branching := by simp
  leaves := rfl

/-- The roots are nodes of the block. -/
theorem root_lt (laid : Block offset block roots leaves) {root : NodeId} (member : root ∈ roots) :
    root.index < offset + block.length := by
  -- Roots are among the numbers that the block gives out.
  have within := laid.numbered.mem_iff.mp (List.mem_append_right _ member)
  simp only [List.mem_map, List.mem_range'_1] at within
  obtain ⟨index, bounds, rfl⟩ := within
  exact bounds.2

/-- Two blocks one behind the other are a block. -/
theorem append (first : Block offset block roots leaves)
    (second : Block (offset + block.length) more others further) :
    Block offset (block ++ more) (roots ++ others) (leaves ++ further) where
  numbered := by
    have both := first.numbered.append second.numbered
    rw [← List.map_append, List.range'_append_1, ← List.length_append] at both
    refine List.Perm.trans ?_ both
    -- The roots of the first block change places with the children of the second.
    rw [List.flatMap_append, List.append_assoc, List.append_assoc]
    exact (List.perm_append_comm_assoc _ _ _).append_left _
  earlier := by
    intro index node found child member
    rw [List.getElem?_append] at found
    split at found
    · exact first.earlier index node found child member
    · have := second.earlier _ node found child member
      omega
  branching := by
    intro relation children member
    rcases List.mem_append.mp member with front | back
    · exact first.branching relation children front
    · exact second.branching relation children back
  leaves := by rw [List.filterMap_append, first.leaves, second.leaves]

/-- A group that lists all roots is the only root from then on. -/
theorem group (laid : Block offset block roots leaves) (relation : SetRelation)
    (several : 2 ≤ roots.length) :
    Block offset (block ++ [.group relation roots]) [⟨offset + block.length⟩] leaves where
  -- The roots become children of the new node, which takes the next number and is the root then.
  numbered := by
    simp only [List.flatMap_append, List.flatMap_singleton, Node.children, List.length_append,
      List.length_singleton, List.range'_concat, List.map_append, List.map_singleton, Nat.one_mul]
    exact laid.numbered.append_right _
  earlier := by
    intro index node found child member
    rw [List.getElem?_append] at found
    split at found
    · exact laid.earlier index node found child member
    · -- The further node is the group, whose children are the roots so far.
      rw [List.getElem?_singleton] at found
      split at found
      · cases found
        have := laid.root_lt member
        omega
      · cases found
  -- The new group has as many children as there were roots.
  branching := by
    intro other children member
    rcases List.mem_append.mp member with front | back
    · exact laid.branching other children front
    · cases List.mem_singleton.mp back
      exact several
  leaves := by simp [laid.leaves, Node.predicate?]

/-- No node of a block is listed twice, and the roots are not listed at all. -/
theorem nodup (laid : Block offset block roots leaves) :
    (block.flatMap Node.children ++ roots).Nodup := by
  rw [laid.numbered.nodup_iff]
  exact List.Nodup.map (fun _ _ same => congrArg NodeId.index same) List.nodup_range'

/-- A root is the child of no node. -/
theorem unlisted (laid : Block offset block roots leaves) {root : NodeId} (member : root ∈ roots) :
    ∀ node ∈ block, root ∉ node.children := by
  intro node here listed
  have disjoint := List.disjoint_of_nodup_append laid.nodup
  exact disjoint (List.mem_flatMap.mpr ⟨node, here, listed⟩) member

/-- A node that is no root is listed once, by one node. -/
theorem listed (laid : Block offset block roots leaves) {id : NodeId} (first : offset ≤ id.index)
    (within : id.index < offset + block.length) (other : id ∉ roots) :
    ∃ (index : Nat) (node : Node), block[index]? = some node ∧ node.children.count id = 1 ∧
      ∀ (position : Nat) (owner : Node), block[position]? = some owner →
        id ∈ owner.children → position = index := by
  -- The numbers of the block are all children or roots, and this one is no root.
  have numbered : id ∈ block.flatMap Node.children ++ roots := by
    refine laid.numbered.mem_iff.mpr (List.mem_map.mpr ⟨id.index, ?_, rfl⟩)
    exact List.mem_range'_1.mpr ⟨first, within⟩
  have below := (List.mem_append.mp numbered).resolve_right other
  obtain ⟨node, here, child⟩ := List.mem_flatMap.mp below
  obtain ⟨index, found⟩ := List.mem_iff_getElem?.mp here
  -- No node is listed twice, neither by one node nor by two.
  obtain ⟨once, apart⟩ := List.nodup_flatMap.mp laid.nodup.of_append_left
  refine ⟨index, node, found, List.count_eq_one_of_mem (once node here) child, ?_⟩
  intro position owner owned also
  obtain ⟨bound, rfl⟩ := List.getElem?_eq_some_iff.mp found
  obtain ⟨limit, rfl⟩ := List.getElem?_eq_some_iff.mp owned
  have separate := List.pairwise_iff_getElem.mp apart
  rcases Nat.lt_trichotomy position index with before | same | behind
  · exact absurd child (separate position index limit bound before also)
  · exact same
  · exact absurd also (separate index position bound limit behind child)

end Block

/-- Laying out queries gives a root for each of them. -/
theorem length_plantAll (nodes : Nodes) (queries : List Query) :
    (nodes.plantAll queries).2.length = queries.length := by
  induction queries generalizing nodes with
  | nil => rfl
  | cons query others ih => rw [plantAll, List.length_cons, List.length_cons, ih]

mutual

/-- Laying out a query adds a block of nodes, of which the last one is the root. -/
theorem plant_block (nodes : Nodes) {query : Query} (compact : query.Compact) (full : query.Full) :
    ∃ block, (nodes.plant query).1.toList = nodes.toList ++ block ∧
      Block nodes.size block [(nodes.plant query).2] query.predicates ∧
      (nodes.plant query).2.index + 1 = (nodes.plant query).1.size := by
  match query with
  | .test p => exact ⟨[.test p], by simp [plant, add], .test _ p, by simp [plant, add]⟩
  | .group relation operands =>
    cases compact with
    | group _ single parts =>
      cases full with
      | group _ some filled =>
        -- With neither none nor one, there are several operands.
        have several : 2 ≤ (nodes.plantAll operands).2.length := by
          have := List.length_pos_of_ne_nil some
          rw [length_plantAll]
          omega
        obtain ⟨block, appended, laid⟩ := plantAll_block nodes parts filled
        have size : (nodes.plantAll operands).1.size = nodes.size + block.length := by
          simpa using congrArg List.length appended
        rw [plant, addGroup_of_length_ne _ _ (by omega)]
        refine ⟨block ++ [.group relation (nodes.plantAll operands).2], ?_, ?_, by simp [add]⟩
        · simp [add, appended]
        · rw [add, size]
          exact laid.group relation several

/-- Laying out queries adds a block of nodes, with a root for each of the queries. -/
theorem plantAll_block (nodes : Nodes) {queries : List Query}
    (compact : ∀ query ∈ queries, query.Compact) (full : ∀ query ∈ queries, query.Full) :
    ∃ block, (nodes.plantAll queries).1.toList = nodes.toList ++ block ∧
      Block nodes.size block (nodes.plantAll queries).2 (Query.predicatesOf queries) := by
  match queries with
  | [] => exact ⟨[], by simp [plantAll], .empty _⟩
  | query :: others =>
    -- One block for the first query, and one behind it for the others.
    obtain ⟨block, appended, first, -⟩ := plant_block nodes (compact query (by simp)) (full query (by simp))
    obtain ⟨more, further, rest⟩ := plantAll_block (nodes.plant query).1
      (fun other member => compact other (List.mem_cons_of_mem query member))
      (fun other member => full other (List.mem_cons_of_mem query member))
    -- The further blocks start where the first one ends.
    have size : (nodes.plant query).1.size = nodes.size + block.length := by
      simpa using congrArg List.length appended
    rw [size] at rest
    exact ⟨block ++ more, by simp [plantAll, further, appended], first.append rest⟩

end

/-- What can be reached from a node, its children included. -/
theorem Reaches.toChild {nodes : Nodes} {top id child : NodeId} {relation : SetRelation}
    {children : List NodeId} (reached : nodes.Reaches top id)
    (found : nodes[id.index]? = some (.group relation children)) (member : child ∈ children) :
    nodes.Reaches top child := by
  induction reached with
  | here id => exact .child found member (.here child)
  | child above listed _ ih => exact .child above listed (ih found)

end Nodes

namespace QueryTree

/-- The nodes of a tree in their places. -/
structure Arranged (tree : QueryTree) : Prop where
  /-- Children stand in front of their group. -/
  earlier : ∀ (id : NodeId) (relation : SetRelation) (children : List NodeId),
    tree.nodes[id.index]? = some (.group relation children) →
      ∀ child ∈ children, child.index < id.index
  /-- A group has at least two children. -/
  branching : ∀ (id : NodeId) (relation : SetRelation) (children : List NodeId),
    tree.nodes[id.index]? = some (.group relation children) → 2 ≤ children.length
  /-- The root is the last node. -/
  last : tree.root.index + 1 = tree.nodes.size
  /-- The root is the child of no node. -/
  top : tree.parent? tree.root = none
  /-- Every other node is listed once, by one group, which is its parent. -/
  owned : ∀ id : NodeId, id.index < tree.nodes.size → id ≠ tree.root →
    ∃ (owner : NodeId) (relation : SetRelation) (children : List NodeId),
      tree.nodes[owner.index]? = some (.group relation children) ∧ children.count id = 1 ∧
        tree.parent? id = some owner ∧
        ∀ (other : NodeId) (node : Node), tree.nodes[other.index]? = some node →
          id ∈ node.children → other = owner
  /-- Every node can be reached from the root. -/
  reached : ∀ id : NodeId, id.index < tree.nodes.size → tree.nodes.Reaches tree.root id
  /-- The predicates of the nodes are those of the query from left to right. -/
  ordered : tree.predicates = tree.toQuery.predicates
  /-- The text of the tree writes the predicates in the order of their nodes. -/
  written : Query.Writes tree.predicates tree.render.toList

/-- A node that is listed by a single node has that one for its parent. -/
theorem parent?_eq_some {tree : QueryTree} {id owner : NodeId} {node : Node}
    (found : tree.nodes[owner.index]? = some node) (member : id ∈ node.children)
    (only : ∀ (other : NodeId) (node : Node), tree.nodes[other.index]? = some node →
      id ∈ node.children → other = owner) :
    tree.parent? id = some owner := by
  have entry : (node, owner.index) ∈ tree.nodes.toList.zipIdx.reverse := by
    simpa [List.mem_zipIdx_iff_getElem?] using found
  unfold parent?
  -- The search finds some node that lists the child, and there is only one.
  cases search : tree.nodes.toList.zipIdx.reverse.find? fun entry => entry.1.children.contains id with
  | none =>
    have unlisted := List.find?_eq_none.mp search _ entry
    simp [member] at unlisted
  | some first =>
    have listed : id ∈ first.1.children := by simpa using List.find?_some search
    have here : tree.nodes[first.2]? = some first.1 := by
      simpa [List.mem_zipIdx_iff_getElem?] using List.mem_of_find?_eq_some search
    rw [Option.map_some, ← only ⟨first.2⟩ first.1 here listed]

/-- A node that is listed by none has no parent. -/
theorem parent?_eq_none {tree : QueryTree} {id : NodeId}
    (unlisted : ∀ node ∈ tree.nodes.toList, id ∉ node.children) : tree.parent? id = none := by
  unfold parent?
  rw [Option.map_eq_none_iff, List.find?_eq_none]
  intro entry member
  -- The search goes through the nodes, and none of them lists the one that is looked for.
  have here : entry.1 ∈ tree.nodes.toList := by
    have found := List.mem_zipIdx_iff_getElem?.mp (List.mem_reverse.mp member)
    exact List.mem_of_getElem? found
  simpa using unlisted entry.1 here

section Laid

variable {tree : QueryTree} {leaves : List Predicate}
  (laid : Nodes.Block 0 tree.nodes.toList [tree.root] leaves)

include laid

/-- In a tree that is laid out, children stand in front of their group. -/
theorem child_lt {id child : NodeId} {node : Node} (found : tree.nodes[id.index]? = some node)
    (member : child ∈ node.children) : child.index < id.index := by
  rw [← Array.getElem?_toList] at found
  simpa using laid.earlier id.index node found child member

/-- In a tree that is laid out, every node but the root is listed once, by the group that is its parent. -/
theorem exists_owner {id : NodeId} (within : id.index < tree.nodes.size) (other : id ≠ tree.root) :
    ∃ (owner : NodeId) (relation : SetRelation) (children : List NodeId),
      tree.nodes[owner.index]? = some (.group relation children) ∧ children.count id = 1 ∧
        tree.parent? id = some owner ∧
        ∀ (other : NodeId) (node : Node), tree.nodes[other.index]? = some node →
          id ∈ node.children → other = owner := by
  obtain ⟨index, node, here, once, only⟩ := laid.listed (Nat.zero_le id.index)
    (by simpa using within) (fun root => other (List.mem_singleton.mp root))
  have owner : tree.nodes[(NodeId.mk index).index]? = some node := by
    rwa [Array.getElem?_toList] at here
  have member : id ∈ node.children := List.count_pos_iff.mp (by omega)
  have single : ∀ (other : NodeId) (node : Node), tree.nodes[other.index]? = some node →
      id ∈ node.children → other = ⟨index⟩ := by
    intro other node listed also
    rw [← Array.getElem?_toList] at listed
    exact congrArg NodeId.mk (only other.index node listed also)
  -- A node that lists another one is a group.
  cases node with
  | test p => simp [Node.children] at member
  | group relation children =>
    exact ⟨⟨index⟩, relation, children, owner, once, parent?_eq_some owner member single, single⟩

/-- In a tree that is laid out, every node can be reached from the root. -/
theorem reaches_of_lt {id : NodeId} (within : id.index < tree.nodes.size) :
    tree.nodes.Reaches tree.root id := by
  -- The way down to a node goes through its parent, which is nearer to the end of the nodes.
  induction remaining : tree.nodes.size - id.index using Nat.strongRecOn generalizing id with
  | ind remaining ih =>
    by_cases top : id = tree.root
    · rw [top]
      exact .here _
    · obtain ⟨owner, relation, children, here, once, -, -⟩ := exists_owner laid within top
      have member : id ∈ children := List.count_pos_iff.mp (by omega)
      have nearer := child_lt laid here member
      obtain ⟨inside, -⟩ := Array.getElem?_eq_some_iff.mp here
      exact (ih (tree.nodes.size - owner.index) (by omega) inside rfl).toChild here member

end Laid

/-- The layout of a query with several operands in every group is arranged. -/
theorem ofQuery_arranged {query : Query} (compact : query.Compact) (full : query.Full) :
    (ofQuery query).Arranged := by
  obtain ⟨block, appended, block_laid, last⟩ := Nodes.plant_block #[] compact full
  -- Nothing has been laid out before, so the nodes are the block.
  have nodes : (ofQuery query).nodes.toList = block := appended
  have laid : Nodes.Block 0 (ofQuery query).nodes.toList [(ofQuery query).root] query.predicates := by
    rw [nodes]
    exact block_laid
  have predicates : (ofQuery query).predicates = query.predicates := laid.leaves
  have whole := toQuery_ofQuery compact
  exact {
    earlier := fun _ _ _ here _ member => child_lt laid here member
    branching := fun _ relation children here =>
      laid.branching relation children (Array.mem_toList_iff.mpr (Array.mem_of_getElem? here))
    last := last
    top := parent?_eq_none (laid.unlisted (List.mem_singleton.mpr rfl))
    owned := fun _ within other => exists_owner laid within other
    reached := fun _ within => reaches_of_lt laid within
    ordered := by rw [predicates, whole]
    written := by
      rw [predicates, render, whole]
      exact query.writes_render }

/-- Trees that are read from texts or made from single predicates, and that are combined and joined from
such trees. -/
inductive Made : QueryTree → Prop where
  | parsed {text : String} {tree : QueryTree} (read : parse text = .ok tree) : Made tree
  | predicate (p : Predicate) : Made (ofPredicate p)
  | combined {relation : SetRelation} {trees : List QueryTree} {tree : QueryTree}
      (parts : ∀ part ∈ trees, Made part) (whole : combine relation trees = some tree) : Made tree
  | joined {left right : QueryTree} (relation : SetRelation) (first : Made left)
      (second : Made right) : Made (join relation left right)

/-- Such a tree is the layout of a query with several operands in every group. -/
theorem Made.laidOut {tree : QueryTree} (made : tree.Made) :
    ∃ query : Query, query.Compact ∧ query.Full ∧ tree = ofQuery query := by
  induction made with
  | parsed read =>
    -- What a text spells is derived from its tokens, and so leaves no group with fewer than two operands.
    obtain ⟨query, derived, rfl⟩ := parse_eq_ok_iff.mp read
    exact ⟨query, derived.compact, derived.full, rfl⟩
  | predicate p => exact ⟨.test p, .test p, .test p, rfl⟩
  | @combined relation trees tree parts whole ih =>
    -- The query of every part is compact and full.
    have queries : ∀ query ∈ trees.map toQuery, query.Compact ∧ query.Full := by
      intro query member
      obtain ⟨part, here, rfl⟩ := List.mem_map.mp member
      obtain ⟨query, compact, full, rfl⟩ := ih part here
      rw [toQuery_ofQuery compact]
      exact ⟨compact, full⟩
    match trees with
    | [] => cases whole
    | [part] =>
      -- A single tree stays as it was made.
      cases whole
      exact ih tree (by simp)
    | first :: second :: others =>
      rw [combine_eq] at whole
      cases whole
      exact ⟨_, .group relation (by simp) fun query member => (queries query member).1,
        .group relation (by simp) fun query member => (queries query member).2, rfl⟩
  | @joined left right relation _ _ first second =>
    obtain ⟨q, compact, full, rfl⟩ := first
    obtain ⟨r, also, filled, rfl⟩ := second
    refine ⟨.group relation [q, r], .group relation (by simp) ?_, .group relation (by simp) ?_, ?_⟩
    · simpa using ⟨compact, also⟩
    · simpa using ⟨full, filled⟩
    · rw [join_eq, toQuery_ofQuery compact, toQuery_ofQuery also]

/-- However a tree has been made, its nodes are in their places. -/
theorem made_arranged {tree : QueryTree} (made : tree.Made) : tree.Arranged := by
  obtain ⟨query, compact, full, rfl⟩ := made.laidOut
  exact ofQuery_arranged compact full

/-- A name, or a cost and a color together. -/
def layered : QueryTree where
  nodes := #[.test ⟨.name, .none, .equal, "a"⟩, .test ⟨.cmc, .none, .equal, "1"⟩,
    .test ⟨.colors, .none, .equal, "g"⟩, .group .intersect [⟨1⟩, ⟨2⟩], .group .union [⟨0⟩, ⟨3⟩]]
  root := ⟨4⟩

/-- A tree with two levels that is read from a text stays arranged when it is joined with a predicate. -/
theorem made_arranged_layered :
    parse "name = a || [cmc = 1 && color = g]" = .ok layered ∧
    (join .intersect layered (ofPredicate ⟨.name, .none, .equal, "b"⟩)).Arranged := by
  have read : parse "name = a || [cmc = 1 && color = g]" = .ok layered := by decide +kernel
  exact ⟨read, made_arranged (.joined .intersect (.parsed read) (.predicate _))⟩

end QueryTree

end Decksmith
