import Decksmith.Query.Criterion
import Decksmith.Query.Tree

/-! Which records a query selects: asked of one record or of a list, along the query or along the nodes of a
tree. -/

namespace Decksmith.Query

mutual

/-- Whether a query holds of one record. An intersection of nothing holds. -/
def holds (mode : CaseMode) (record : Record) : Query → Bool
  | test predicate => (Criterion.ofPredicate predicate).acceptsRecord mode record
  | group .union operands => anyHolds mode record operands
  | group .intersect operands => allHold mode record operands

/-- Whether one of some queries holds. -/
def anyHolds (mode : CaseMode) (record : Record) : List Query → Bool
  | [] => false
  | query :: others => holds mode record query || anyHolds mode record others

/-- Whether all of some queries hold. -/
def allHold (mode : CaseMode) (record : Record) : List Query → Bool
  | [] => true
  | query :: others => holds mode record query && allHold mode record others

end

mutual

/-- Which records of a list a query selects. A group of nothing selects none. -/
def mask (mode : CaseMode) (records : List Record) : Query → List Bool
  | test predicate =>
    let criterion := Criterion.ofPredicate predicate
    records.map (criterion.acceptsRecord mode)
  | group _ [] => records.map fun _ => false
  | group relation (first :: others) =>
    -- The first operand starts the mask, and the others are combined with it one by one.
    maskRest mode records relation (mask mode records first) others

/-- Combines what has been selected with what further queries select. -/
def maskRest (mode : CaseMode) (records : List Record) (relation : SetRelation)
    (selected : List Bool) : List Query → List Bool
  | [] => selected
  | query :: others =>
    maskRest mode records relation
      (List.zipWith relation.combine selected (mask mode records query)) others

end

/-- The selected records in their order. -/
def select (mode : CaseMode) (query : Query) (records : List Record) : List Record :=
  ((records.zip (query.mask mode records)).filter Prod.snd).map Prod.fst

end Decksmith.Query

namespace Decksmith

/-- The criterion of a node with a predicate. -/
def Node.criterion? : Node → Option Criterion
  | test p => some (.ofPredicate p)
  | group _ _ => none

/-- A query tree that is ready for evaluation. -/
structure Evaluator where
  tree : QueryTree
  /-- The criteria of all nodes, at their numbers; groups have none. -/
  criteria : Array (Option Criterion)
  mode : CaseMode

namespace Evaluator

/-- Makes a tree ready, each of its predicates once. -/
def ofTree (tree : QueryTree) (mode : CaseMode) : Evaluator where
  tree := tree
  criteria := tree.nodes.map Node.criterion?
  mode := mode

/-- The criterion at the number of a node. -/
def criterion? (evaluator : Evaluator) (id : NodeId) : Option Criterion :=
  evaluator.criteria[id.index]?.getD none

/-- Whether a node holds of one record, looked at down to a depth. -/
def holdsAt (evaluator : Evaluator) (record : Record) : Nat → NodeId → Bool
  | 0, _ => false
  | depth + 1, id =>
    match evaluator.tree.nodes[id.index]? with
    | none => false
    | some (.test p) =>
      (evaluator.criterion? id).any fun criterion =>
        criterion.accepts evaluator.mode (record.field p.key)
    | some (.group .union children) => children.any (evaluator.holdsAt record depth)
    | some (.group .intersect children) => children.all (evaluator.holdsAt record depth)

/-- Which records of a list a node selects, looked at down to a depth. -/
def maskAt (evaluator : Evaluator) (records : List Record) : Nat → NodeId → List Bool
  | 0, _ => records.map fun _ => false
  | depth + 1, id =>
    match evaluator.tree.nodes[id.index]? with
    | none => records.map fun _ => false
    | some (.test p) =>
      match evaluator.criterion? id with
      | none => records.map fun _ => false
      | some criterion =>
        records.map fun record => criterion.accepts evaluator.mode (record.field p.key)
    | some (.group _ []) => records.map fun _ => false
    | some (.group relation (first :: others)) =>
      -- The mask of the first child is changed in turn by those of the others.
      others.foldl
        (fun selected child =>
          List.zipWith relation.combine selected (evaluator.maskAt records depth child))
        (evaluator.maskAt records depth first)

/-- A depth that no tree exceeds: on the way down from the root no node comes twice. -/
def depth (evaluator : Evaluator) : Nat :=
  evaluator.tree.nodes.size

/-- Whether the tree holds of one record. -/
def holds (evaluator : Evaluator) (record : Record) : Bool :=
  evaluator.holdsAt record evaluator.depth evaluator.tree.root

/-- Which records of a list the tree selects. -/
def mask (evaluator : Evaluator) (records : List Record) : List Bool :=
  evaluator.maskAt records evaluator.depth evaluator.tree.root

/-- The selected records in their order. -/
def select (evaluator : Evaluator) (records : List Record) : List Record :=
  ((records.zip (evaluator.mask records)).filter Prod.snd).map Prod.fst

end Evaluator

namespace QueryTree

/-- Whether a tree's query holds of one record. -/
def holds (tree : QueryTree) (mode : CaseMode) (record : Record) : Bool :=
  (Evaluator.ofTree tree mode).holds record

/-- Which records of a list a tree's query selects. -/
def mask (tree : QueryTree) (mode : CaseMode) (records : List Record) : List Bool :=
  (Evaluator.ofTree tree mode).mask records

/-- The records that a tree's query selects, in their order. -/
def select (tree : QueryTree) (mode : CaseMode) (records : List Record) : List Record :=
  (Evaluator.ofTree tree mode).select records

end QueryTree

end Decksmith
