import Decksmith.Query.Parse

/-! Query trees: queries laid out as numbered nodes. -/

namespace Decksmith

/-- The number of a node in its tree. -/
structure NodeId where
  index : Nat
deriving DecidableEq, Repr

/-- The text of a node number. -/
def NodeId.render (id : NodeId) : String :=
  "NodeId(" ++ toString id.index ++ ")"

/-- A node of a query tree. -/
inductive Node where
  | test (predicate : Predicate)
  | group (relation : SetRelation) (children : List NodeId)
deriving DecidableEq, Repr

namespace Node

/-- The children of a node. -/
def children : Node → List NodeId
  | test _ => []
  | group _ children => children

end Node

/-- The nodes of a tree that is being laid out. -/
abbrev Nodes := Array Node

namespace Nodes

/-- Appends a node and tells its number. -/
def add (nodes : Nodes) (node : Node) : Nodes × NodeId :=
  (nodes.push node, ⟨nodes.size⟩)

/-- Appends a group; a single child stands for itself. -/
def addGroup (nodes : Nodes) (relation : SetRelation) : List NodeId → Nodes × NodeId
  | [child] => (nodes, child)
  | children => nodes.add (.group relation children)

mutual

/-- Appends the nodes of a query, operands in front of their group. -/
def plant (nodes : Nodes) : Query → Nodes × NodeId
  | .test p => nodes.add (.test p)
  | .group relation operands =>
    -- Operands come first, so that every child has a smaller number than its group.
    let planted := plantAll nodes operands
    planted.1.addGroup relation planted.2

/-- Appends the nodes of some queries, one query after the other. -/
def plantAll (nodes : Nodes) : List Query → Nodes × List NodeId
  | [] => (nodes, [])
  | query :: others =>
    let first := plant nodes query
    let rest := plantAll first.1 others
    (rest.1, first.2 :: rest.2)

end

/-- Appends what each of some items stands for, one item after the other. -/
def addEach {α : Type} (step : Nodes → α → Nodes × NodeId) (nodes : Nodes) :
    List α → Nodes × List NodeId
  | [] => (nodes, [])
  | item :: others =>
    let first := step nodes item
    let rest := addEach step first.1 others
    (rest.1, first.2 :: rest.2)

/-- Appends to other nodes a copy of a node and of all below it, down to a depth. What is beyond the depth,
or not there at all, counts as a union of nothing. -/
def graft (nodes : Nodes) : Nat → Nodes → NodeId → Nodes × NodeId
  | 0, others, _ => others.add (.group .union [])
  | depth + 1, others, id =>
    match nodes[id.index]? with
    | none => others.add (.group .union [])
    | some (.test p) => others.add (.test p)
    | some (.group relation children) =>
      -- The copies of the children get new numbers, which the copy of the group lists.
      let copied := addEach (nodes.graft depth) others children
      copied.1.addGroup relation copied.2

/-- The query that is seen from a node down to a depth, with the same default. -/
def queryAt (nodes : Nodes) : Nat → NodeId → Query
  | 0, _ => .group .union []
  | depth + 1, id =>
    match nodes[id.index]? with
    | none => .group .union []
    | some (.test p) => .test p
    | some (.group relation children) => .group relation (children.map (nodes.queryAt depth))

end Nodes

/-- A query tree. -/
structure QueryTree where
  nodes : Nodes
  root : NodeId
deriving DecidableEq, Repr

namespace QueryTree

/-- The tree of a query in its canonical layout. -/
def ofQuery (query : Query) : QueryTree :=
  let planted := Nodes.plant #[] query
  ⟨planted.1, planted.2⟩

/-- The query that a tree stands for. -/
def toQuery (tree : QueryTree) : Query :=
  -- On the way down from the root no node comes twice, so the depth is no limit.
  tree.nodes.queryAt tree.nodes.size tree.root

/-- Appends a copy of a tree to some nodes. -/
def graftOnto (others : Nodes) (tree : QueryTree) : Nodes × NodeId :=
  tree.nodes.graft tree.nodes.size others tree.root

/-- The tree of a single predicate. -/
def ofPredicate (predicate : Predicate) : QueryTree :=
  ofQuery (.test predicate)

/-- The tree that a text spells. -/
def parse (text : String) : Except SyntaxError QueryTree :=
  (Query.parse text).map ofQuery

/-- One group over copies of whole trees. A single tree stays as it is, and no tree gives none. -/
def combine (relation : SetRelation) : List QueryTree → Option QueryTree
  | [] => none
  | [tree] => some tree
  | trees =>
    let copied := Nodes.addEach graftOnto #[] trees
    let whole := copied.1.addGroup relation copied.2
    some ⟨whole.1, whole.2⟩

/-- One group over copies of two trees. -/
def join (relation : SetRelation) (left right : QueryTree) : QueryTree :=
  let first := graftOnto #[] left
  let second := graftOnto first.1 right
  let whole := second.1.addGroup relation [first.2, second.2]
  ⟨whole.1, whole.2⟩

/-- The last group that lists a node among its children. -/
def parent? (tree : QueryTree) (id : NodeId) : Option NodeId :=
  (tree.nodes.toList.zipIdx.reverse.find? fun entry => entry.1.children.contains id).map
    fun entry => ⟨entry.2⟩

/-- The predicates of a tree in the order of its nodes. -/
def predicates (tree : QueryTree) : List Predicate :=
  tree.nodes.toList.filterMap fun
    | .test p => some p
    | .group _ _ => none

/-- The canonical text of a tree. -/
def render (tree : QueryTree) : String :=
  tree.toQuery.render

/-- Whether two trees stand for the same query, whatever the order of their nodes. -/
def same (a b : QueryTree) : Bool :=
  a.toQuery.same b.toQuery

end QueryTree

end Decksmith
