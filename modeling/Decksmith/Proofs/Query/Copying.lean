import Decksmith.Proofs.Query.Evaluation

/-! Trees that are combined are copied faithfully: what is seen from the copies, and what the whole selects,
does not depend on how the nodes of the parts were numbered. -/

namespace Decksmith.QueryTree

variable {relation : SetRelation} {trees : List QueryTree} {whole : QueryTree} {mode : CaseMode}

/-- Trees are the same if they stand for the same query. -/
theorem same_iff {a b : QueryTree} : a.same b = true ↔ a.toQuery = b.toQuery :=
  Query.same_iff a.toQuery b.toQuery

/-- The tree that starts at a node of another one. -/
def startingAt (tree : QueryTree) (id : NodeId) : QueryTree :=
  { tree with root := id }

/-- The root of a tree is a group, and from its children copies of some trees are seen in their order. -/
def Copies (whole : QueryTree) (relation : SetRelation) (trees : List QueryTree) : Prop :=
  ∃ children, whole.nodes[whole.root.index]? = some (.group relation children) ∧
    List.Forall₂ (fun child tree => (whole.startingAt child).Formed ∧
      (whole.startingAt child).same tree = true) children trees

/-- A group that stands for the queries of some trees has copies of these trees below it. -/
theorem Copies.of_stands (compact : whole.nodes.Compact)
    (stands : whole.nodes.StandsFor whole.root (.group relation (trees.map toQuery))) :
    whole.Copies relation trees := by
  -- The children stand for the operands one by one.
  obtain ⟨children, found, parts⟩ := stands.exists_children
  refine ⟨children, found, ?_⟩
  rw [List.forall₂_map_right_iff] at parts
  refine parts.imp fun child tree here => ⟨⟨compact, tree.toQuery, here⟩, ?_⟩
  rw [same_iff]
  exact toQuery_eq here

/-- A copy of a tree leaves the nodes in front of it alone, and from its root the same tree is seen. -/
theorem graftOnto_copies {tree : QueryTree} (formed : tree.Formed) (others : Nodes) :
    others.Keeps (graftOnto others tree).1 ∧
      (QueryTree.mk (graftOnto others tree).1 (graftOnto others tree).2).same tree = true := by
  -- The copy is laid out in the way of the query, and that loses nothing because the query is compact.
  obtain ⟨kept, stands⟩ := others.plant_stands formed.compact_toQuery
  rw [graftOnto_eq_plant, same_iff]
  exact ⟨kept, toQuery_eq stands⟩

/-- Some trees can be combined. -/
theorem exists_combine (relation : SetRelation) (some : trees ≠ []) :
    ∃ whole, combine relation trees = .some whole := by
  match trees with
  | [tree] => exact ⟨tree, rfl⟩
  | first :: second :: others => exact ⟨_, combine_eq relation first second others⟩

/-- What is combined has a part. -/
theorem ne_nil_of_combine (combined : combine relation trees = some whole) : trees ≠ [] := by
  rintro rfl
  cases combined

/-- The whole stands for the group of the queries of its parts. -/
theorem toQuery_combine (compact : ∀ tree ∈ trees, tree.toQuery.Compact)
    (combined : combine relation trees = some whole) :
    whole.toQuery = .ofOperands relation (trees.map toQuery) := by
  match trees with
  | [tree] =>
    cases combined
    rfl
  | first :: second :: others =>
    rw [combine_eq] at combined
    cases combined
    -- Several parts make a group, and that is compact like the parts.
    refine toQuery_ofQuery (.group relation (by simp) fun query member => ?_)
    obtain ⟨tree, here, rfl⟩ := List.mem_map.mp member
    exact compact tree here

/-- Whatever formed trees are combined to is formed. -/
theorem combine_formed (formed : ∀ tree ∈ trees, tree.Formed)
    (combined : combine relation trees = some whole) : whole.Formed := by
  match trees with
  | [tree] =>
    cases combined
    exact formed whole (by simp)
  -- The copies of several trees are laid out in one piece, without what was out of reach.
  | first :: second :: others =>
    rw [combine_eq] at combined
    cases combined
    exact (ofQuery_built _).formed

/-- Several trees are copied below the root of the whole. -/
theorem combine_copies (formed : ∀ tree ∈ trees, tree.Formed) (several : 2 ≤ trees.length)
    (combined : combine relation trees = some whole) : whole.Copies relation trees := by
  -- The whole is formed and stands for the group of the trees, of which there are several.
  have group := combine_formed formed combined
  have stands := group.stands
  rw [toQuery_combine (fun tree member => (formed tree member).compact_toQuery) combined] at stands
  match trees with
  | first :: second :: others => exact .of_stands group.compact stands

/-- The whole selects a record if that is so for as many of its parts as the relation asks. -/
theorem marks_combine (compact : ∀ tree ∈ trees, tree.toQuery.Compact)
    (combined : combine relation trees = some whole) (record : Record) :
    whole.marks mode record = true ↔
      relation.Among (fun tree => tree.marks mode record = true) trees := by
  have parts : trees.map toQuery ≠ [] :=
    fun none => ne_nil_of_combine combined (List.map_eq_nil_iff.mp none)
  simp only [marks_eq, seen]
  -- A group asks its operands, and so does a single operand that stands for itself.
  rw [toQuery_combine compact combined, Query.marks_ofOperands_iff parts, SetRelation.among_map]

/-- The mask of the whole combines those of its parts at every place. -/
theorem mask_combine (compact : ∀ tree ∈ trees, tree.toQuery.Compact)
    (combined : combine relation trees = some whole) (records : List Record) (place : Nat) :
    (whole.mask mode records)[place]? = some true ↔
      relation.Among (fun tree => (tree.mask mode records)[place]? = some true) trees := by
  simp only [mask_eq_map, List.getElem?_map]
  cases records[place]? with
  | some record =>
    simp only [Option.map_some, Option.some.injEq]
    exact marks_combine compact combined record
  | none =>
    -- Behind the last record no mask has an entry.
    simp only [Option.map_none, reduceCtorEq, false_iff]
    exact SetRelation.not_among (ne_nil_of_combine combined) (by simp)

/-- Trees that are the same select the same records and have the same text. -/
theorem mask_and_render_of_same {other : QueryTree} (same : other.same whole = true) :
    (∀ mode records, other.mask mode records = whole.mask mode records) ∧
      other.render = whole.render := by
  rw [same_iff] at same
  refine ⟨fun mode records => ?_, congrArg Query.render same⟩
  rw [mask_eq, mask_eq, seen, same, seen]

/-- A part may be replaced by one that is the same, whatever its nodes are. -/
theorem combine_set {place : Nat} {tree other : QueryTree}
    (compact : ∀ tree ∈ trees, tree.toQuery.Compact) (combined : combine relation trees = some whole)
    (here : trees[place]? = some tree) (same : other.same tree = true) :
    ∃ changed, combine relation (trees.set place other) = some changed ∧
      changed.same whole = true := by
  rw [same_iff] at same
  -- The queries of the parts are as before.
  have queries : (trees.set place other).map toQuery = trees.map toQuery := by
    obtain ⟨within, rfl⟩ := List.getElem?_eq_some_iff.mp here
    rw [List.map_set, same, ← List.map_set, List.set_getElem_self]
  have still : ∀ tree ∈ trees.set place other, tree.toQuery.Compact := by
    intro tree member
    have mapped : tree.toQuery ∈ (trees.set place other).map toQuery := List.mem_map_of_mem member
    rw [queries] at mapped
    obtain ⟨old, listed, same⟩ := List.mem_map.mp mapped
    rw [← same]
    exact compact old listed
  -- With as many parts as before, there is a whole again.
  have some : trees.set place other ≠ [] := by
    rw [Ne, List.set_eq_nil_iff]
    exact ne_nil_of_combine combined
  obtain ⟨changed, made⟩ := exists_combine relation some
  refine ⟨changed, made, ?_⟩
  rw [same_iff, toQuery_combine still made, queries, toQuery_combine compact combined]

/-- Combining trees copies them faithfully. A single tree is the whole, and otherwise the whole is a group with
a copy of each tree below it. It selects at every place what as many of the parts as the relation asks select
there. Joining two trees combines them, and the copy of a tree behind other nodes is the same tree. Only what
the parts stand for matters: replacing one by a tree that is the same gives a whole that is the same, with the
same mask and the same text. -/
theorem combine_faithful (relation : SetRelation) {trees : List QueryTree} (some : trees ≠ [])
    (formed : ∀ tree ∈ trees, tree.Formed) :
    (∀ tree ∈ trees, ∀ others : Nodes, others.Keeps (graftOnto others tree).1 ∧
      (QueryTree.mk (graftOnto others tree).1 (graftOnto others tree).2).same tree = true) ∧
    ∃ whole, combine relation trees = .some whole ∧
      (∀ tree, trees = [tree] → whole = tree) ∧
      (2 ≤ trees.length → whole.Copies relation trees) ∧
      (∀ mode records, (whole.mask mode records).length = records.length ∧
        ∀ place : Nat, (whole.mask mode records)[place]? = .some true ↔
          relation.Among (fun tree : QueryTree => (tree.mask mode records)[place]? = .some true) trees) ∧
      (∀ left right, trees = [left, right] → join relation left right = whole) ∧
      ∀ (place : Nat) (tree other : QueryTree), trees[place]? = .some tree → other.same tree = true →
        ∃ changed, combine relation (trees.set place other) = .some changed ∧
          changed.same whole = true ∧
          (∀ mode records, changed.mask mode records = whole.mask mode records) ∧
          changed.render = whole.render := by
  have compact : ∀ tree ∈ trees, tree.toQuery.Compact :=
    fun tree member => (formed tree member).compact_toQuery
  -- There is one whole, and everything else is said about it.
  obtain ⟨whole, combined⟩ := exists_combine relation some
  refine ⟨fun tree member => graftOnto_copies (formed tree member), whole, combined, ?_, ?_, ?_, ?_, ?_⟩
  · rintro tree rfl
    exact (Option.some.inj combined).symm
  · intro several
    exact combine_copies formed several combined
  · intro mode records
    exact ⟨by rw [mask_eq_map, List.length_map], mask_combine compact combined records⟩
  · rintro left right rfl
    exact Option.some.inj combined
  · intro place tree other here same
    obtain ⟨changed, made, still⟩ := combine_set compact combined here same
    exact ⟨changed, made, still, mask_and_render_of_same still⟩

/-- An intersection that lists one predicate twice, in front of it, next to a node out of reach. -/
def repeated : QueryTree where
  nodes := #[.group .intersect [⟨2⟩, ⟨2⟩], .test ⟨.cmc, .none, .equal, "1"⟩,
    .test ⟨.name, .none, .equal, "c"⟩]
  root := ⟨0⟩

/-- Shared nodes, nodes out of reach and groups in front of their children do not matter to a copy. -/
theorem combine_faithful_repeated :
    ∃ whole, combine .union [upsideDown, repeated] = some whole ∧
      whole.Copies .union [upsideDown, repeated] ∧ join .union upsideDown repeated = whole ∧
      whole.mask .strict [named 1 "a", named 2 "d", named 3 "c"] = [true, false, true] := by
  -- The roots are groups of predicates, wherever these are stored.
  have first : upsideDown.Formed :=
    ⟨Nodes.compact_of_children (by decide), _, .group (upsideDown.nodes.queryAt 1) rfl
      (List.forall_mem_cons.mpr ⟨.test rfl, List.forall_mem_singleton.mpr (.test rfl)⟩)⟩
  have second : repeated.Formed :=
    ⟨Nodes.compact_of_children (by decide), _, .group (repeated.nodes.queryAt 1) rfl
      (List.forall_mem_cons.mpr ⟨.test rfl, List.forall_mem_singleton.mpr (.test rfl)⟩)⟩
  obtain ⟨-, whole, combined, -, copies, -, joined, -⟩ :=
    combine_faithful .union (List.cons_ne_nil upsideDown [repeated]) (by simp [first, second])
  refine ⟨whole, combined, copies (by simp), joined _ _ rfl, ?_⟩
  rw [← joined _ _ rfl]
  decide +kernel

end Decksmith.QueryTree
