import Decksmith.Proofs.Query.Balance
import Decksmith.Proofs.Query.Evaluation

/-! Queries that are rewritten without a change of their meaning select the same records, and so do texts that
are bracketed in different ways. -/

namespace Decksmith

namespace Query

/-- A rewriting of one group of a query: its operands are put into another order, one of them is repeated, or an
operand that is a group of the same relation gives way to its own operands. -/
inductive Rewrites : Query → Query → Prop where
  | permuted (relation : SetRelation) {operands others : List Query} (order : operands.Perm others) :
      Rewrites (group relation operands) (group relation others)
  | repeated (relation : SetRelation) (front : List Query) (query : Query) (back : List Query) :
      Rewrites (group relation (front ++ query :: back))
        (group relation (front ++ query :: query :: back))
  | spliced (relation : SetRelation) (front inner back : List Query) :
      Rewrites (group relation (front ++ group relation inner :: back))
        (group relation (front ++ inner ++ back))
  | inside (relation : SetRelation) (front : List Query) {query other : Query} (back : List Query)
      (change : Rewrites query other) :
      Rewrites (group relation (front ++ query :: back)) (group relation (front ++ other :: back))

variable {query other : Query}

/-- No group loses its operands. -/
theorem Rewrites.full (change : Rewrites query other) (full : query.Full) : other.Full := by
  -- The induction is on how deep the rewriting is; only the innermost group changes its list of operands.
  induction change with
  | permuted relation order =>
    obtain ⟨some, parts⟩ := full.operands
    refine .group relation (fun none => some ?_) fun query member => parts query (order.mem_iff.mpr member)
    rw [none] at order
    exact order.eq_nil
  | repeated relation front query back =>
    obtain ⟨-, parts⟩ := full.operands
    refine .group relation (by simp) fun part member => parts part ?_
    simpa using member
  | spliced relation front inner back =>
    obtain ⟨-, parts⟩ := full.operands
    -- The inner group has an operand, which is one of the outer group now.
    obtain ⟨some, within⟩ := (parts (.group relation inner) (by simp)).operands
    refine .group relation (by simp [some]) fun part member => ?_
    rw [List.mem_append, List.mem_append] at member
    rcases member with (before | here) | behind
    · exact parts part (by simp [before])
    · exact within part here
    · exact parts part (by simp [behind])
  | @inside relation front query other back _ ih =>
    obtain ⟨-, parts⟩ := full.operands
    refine .group relation (by simp) fun part member => ?_
    rw [List.mem_append, List.mem_cons] at member
    rcases member with before | rfl | behind
    · exact parts part (by simp [before])
    · exact ih (parts query (by simp))
    · exact parts part (by simp [behind])

/-- One rewriting, however deep it is, leaves the bit of every record as it is. -/
theorem Rewrites.marks_eq (change : Rewrites query other) (full : query.Full) (mode : CaseMode)
    (record : Record) : other.marks mode record = query.marks mode record := by
  have after := change.full full
  rw [Bool.eq_iff_iff]
  -- Both groups ask the same of their operands, because each group has one at least.
  induction change with
  | permuted relation order =>
    rw [marks_group_iff full.operands.1, marks_group_iff after.operands.1]
    exact SetRelation.among_of_mem_iff fun _ => order.mem_iff.symm
  | repeated relation front query back =>
    rw [marks_group_iff full.operands.1, marks_group_iff after.operands.1]
    exact SetRelation.among_of_mem_iff (by simp)
  | spliced relation front inner back =>
    rw [marks_group_iff full.operands.1, marks_group_iff after.operands.1]
    have within : (group relation inner).Full := full.operands.2 _ (by simp)
    exact (SetRelation.among_splice (marks_group_iff within.operands.1 record) front back).symm
  | @inside relation front query other back change ih =>
    rw [marks_group_iff full.operands.1, marks_group_iff after.operands.1]
    -- The rewritten operand selects what the other one did.
    have here := ih (full.operands.2 query (by simp)) (after.operands.2 other (by simp))
    have single : front ++ other :: back = front ++ [other] ++ back := by simp
    rw [single]
    refine (SetRelation.among_splice ?_ front back).symm
    rw [SetRelation.among_singleton, here]

/-- Any number of rewritings leaves every bit as it is. -/
theorem marks_of_rewritten (changes : Relation.ReflTransGen Rewrites query other) (full : query.Full)
    (mode : CaseMode) (record : Record) :
    other.Full ∧ other.marks mode record = query.marks mode record := by
  induction changes with
  | refl => exact ⟨full, rfl⟩
  | tail _ change ih =>
    -- The last rewriting starts from a query that is full as well.
    obtain ⟨still, same⟩ := ih
    exact ⟨change.full still, (change.marks_eq still mode record).trans same⟩

/-- Operands may all be rewritten where they stand. -/
theorem rewrites_operands {α : Type} (relation : SetRelation) {query next : α → Query} {items : List α}
    (changes : ∀ item ∈ items, Relation.ReflTransGen Rewrites (query item) (next item))
    (front : List Query) :
    Relation.ReflTransGen Rewrites (group relation (front ++ items.map query))
      (group relation (front ++ items.map next)) := by
  -- The operands are rewritten from left to right; those that are done join the front.
  induction items generalizing front with
  | nil => exact .refl
  | cons item others ih =>
    obtain ⟨here, later⟩ := List.forall_mem_cons.mp changes
    have first : Relation.ReflTransGen Rewrites (group relation (front ++ query item :: others.map query))
        (group relation (front ++ next item :: others.map query)) :=
      here.lift (fun operand => group relation (front ++ operand :: others.map query))
        fun _ _ change => .inside relation front (others.map query) change
    have rest := ih later (front ++ [next item])
    simp only [List.append_assoc, List.singleton_append] at rest
    exact first.trans rest

end Query

namespace Nodes

variable {nodes later : Nodes} {relation : SetRelation} {children others : List NodeId}

/-- The children that a group may list instead of its own: these in another order, with one of them repeated, or
with the children of a group of the same relation in its place. -/
inductive Rearranges (nodes : Nodes) (relation : SetRelation) : List NodeId → List NodeId → Prop where
  | permuted {children others : List NodeId} (order : children.Perm others) :
      Rearranges nodes relation children others
  | repeated (front : List NodeId) (child : NodeId) (back : List NodeId) :
      Rearranges nodes relation (front ++ child :: back) (front ++ child :: child :: back)
  | spliced (front : List NodeId) (child : NodeId) (inner back : List NodeId)
      (found : nodes[child.index]? = some (.group relation inner)) :
      Rearranges nodes relation (front ++ child :: back) (front ++ inner ++ back)

/-- Rearranged children stand for rewritten operands. -/
theorem Rearranges.rewrites (change : nodes.Rearranges relation children others)
    (kept : ∀ child ∈ children, later[child.index]? = nodes[child.index]?)
    (stand : ∀ child ∈ children, later.StandsFor child (later.queryAt later.size child)) :
    (∀ child ∈ others, later.StandsFor child (later.queryAt later.size child)) ∧
      Query.Rewrites (.group relation (children.map (later.queryAt later.size)))
        (.group relation (others.map (later.queryAt later.size))) := by
  -- What is done to the list of children is done to the list of what they stand for.
  cases change with
  | permuted order =>
    exact ⟨fun child member => stand child (order.mem_iff.mpr member), .permuted relation (order.map _)⟩
  | repeated front child back =>
    refine ⟨fun other member => stand other (by simpa using member), ?_⟩
    simpa using Query.Rewrites.repeated relation (front.map (later.queryAt later.size))
      (later.queryAt later.size child) (back.map (later.queryAt later.size))
  | spliced front child inner back found =>
    -- The inner group is still there, and stands for the group of its own children.
    have still := (kept child (by simp)).trans found
    obtain ⟨group, parts⟩ := (stand child (by simp)).group_children still
    constructor
    · intro other member
      rw [List.mem_append, List.mem_append] at member
      rcases member with (before | here) | behind
      · exact stand other (by simp [before])
      · exact parts other here
      · exact stand other (by simp [behind])
    · rw [List.map_append, List.map_cons, group, List.map_append, List.map_append]
      exact .spliced relation _ _ _

/-- The nodes with other children for one of the groups. -/
def regrouped (nodes : Nodes) (target : NodeId) (relation : SetRelation) (others : List NodeId) : Nodes :=
  nodes.setIfInBounds target.index (.group relation others)

/-- After the children of one group have been rearranged, every node stands for a rewritten query. -/
theorem StandsFor.regrouped {target : NodeId}
    (listed : nodes[target.index]? = some (.group relation children))
    (change : nodes.Rearranges relation children others) {id : NodeId} {query : Query}
    (stands : nodes.StandsFor id query) :
    ∃ other, (nodes.regrouped target relation others).StandsFor id other ∧
      Relation.ReflTransGen Query.Rewrites query other := by
  have within : target.index < nodes.size := (Array.getElem?_eq_some_iff.mp listed).1
  have here : (nodes.regrouped target relation others)[target.index]? = some (.group relation others) := by
    rw [Nodes.regrouped, Array.getElem?_setIfInBounds_self_of_lt within]
  have elsewhere : ∀ id : NodeId, id ≠ target →
      (nodes.regrouped target relation others)[id.index]? = nodes[id.index]? := by
    intro id other
    have apart : target.index ≠ id.index := fun same => other (congrArg NodeId.mk same.symm)
    rw [Nodes.regrouped, Array.getElem?_setIfInBounds_ne apart]
  generalize nodes.regrouped target relation others = later at here elsewhere ⊢
  -- The induction is on what the node stands for, so the operands have been rewritten before their group.
  induction stands with
  | @test id p found =>
    -- A predicate is not the group that has changed.
    have other : id ≠ target := by
      rintro rfl
      rw [listed] at found
      cases found
    exact ⟨.test p, .test ((elsewhere id other).trans found), .refl⟩
  | @group id own members query found parts ih =>
    have below : ∀ child ∈ members, later.StandsFor child (later.queryAt later.size child) ∧
        Relation.ReflTransGen Query.Rewrites (query child) (later.queryAt later.size child) := by
      intro child member
      obtain ⟨other, stands, changes⟩ := ih child member
      -- What the child stands for now is what is seen from it now.
      rw [stands.queryAt_size]
      exact ⟨stands, changes⟩
    have stand := fun child member => (below child member).1
    have inside := Query.rewrites_operands own (fun child member => (below child member).2) []
    by_cases same : id = target
    · -- The group itself lists other children, and its own were rewritten where they stand.
      subst same
      rw [listed] at found
      cases found
      have whole : nodes.StandsFor id (.group relation (children.map query)) := .group query listed parts
      obtain ⟨rearranged, last⟩ := change.rewrites
        (fun child member => elsewhere child (whole.child_ne listed member)) stand
      exact ⟨_, .group _ here rearranged, inside.tail last⟩
    · exact ⟨_, .group _ ((elsewhere id same).trans found) stand, inside⟩

end Nodes

namespace Query

/-- An operand between two operators of one kind. -/
def Operand : SetRelation → List Token → Query → Prop
  | .union => Conjunction
  | .intersect => Atom

/-- A run of operands with the same operator between any two of them, and no brackets around any part of it. -/
inductive Run (relation : SetRelation) : List Token → List Query → Prop where
  | last {tokens : List Token} {query : Query} (only : Operand relation tokens query) :
      Run relation tokens [query]
  | before {tokens rest : List Token} {query : Query} {others : List Query}
      (first : Operand relation tokens query) (run : Run relation rest others) :
      Run relation (tokens ++ relation.token :: rest) (query :: others)

/-- A run of operands that is bracketed in some way into nested groups of the same operator. -/
inductive Nested (relation : SetRelation) : List Token → List Query → Prop where
  | operand {tokens : List Token} {query : Query} (single : Operand relation tokens query) :
      Nested relation tokens [query]
  | joined {tokens more : List Token} {operands further : List Query}
      (first : Nested relation tokens operands) (second : Nested relation more further) :
      Nested relation (tokens ++ relation.token :: more) (operands ++ further)
  | bracketed {tokens : List Token} {operands : List Query} (inner : Nested relation tokens operands) :
      Nested relation (.opening :: (tokens ++ [.closing])) operands

variable {relation : SetRelation} {tokens more : List Token} {operands further : List Query}

/-- A run without brackets is nested in the plainest way. -/
theorem Run.nested (run : Run relation tokens operands) : Nested relation tokens operands := by
  induction run with
  | last only => exact .operand only
  | before first _ ih => exact Nested.joined (.operand first) ih

/-- Two runs with their operator in between are a run. -/
theorem Run.append (first : Run relation tokens operands) (second : Run relation more further) :
    Run relation (tokens ++ relation.token :: more) (operands ++ further) := by
  induction first with
  | last only => exact .before only second
  | before front _ ih => simpa using Run.before front ih

/-- A run of a union spells its alternatives. -/
theorem Run.alternatives (run : Run .union tokens operands) : Alternatives tokens operands := by
  induction run with
  | last only => exact .last only
  | before first _ ih => exact .before first ih

/-- A run of an intersection spells its factors. -/
theorem Run.factors (run : Run .intersect tokens operands) : Factors tokens operands := by
  induction run with
  | last only => exact .last only
  | before first _ ih => exact .before first ih

/-- A run spells the group of its operands. -/
theorem Run.disjunction (run : Run relation tokens operands) :
    Disjunction tokens (ofOperands relation operands) := by
  cases relation with
  | union => exact .chain run.alternatives
  | intersect =>
    -- The run is the only alternative.
    exact .chain (.last (.chain run.factors))

/-- A bracketed run is an operand of every other run. -/
theorem Run.bracketed (run : Run relation tokens operands) :
    Operand relation (.opening :: (tokens ++ [.closing])) (ofOperands relation operands) := by
  have atom := Atom.bracketed run.disjunction
  cases relation with
  | union => exact .chain (.last atom)
  | intersect => exact atom

/-- However it is bracketed, a run is one without brackets, and its operands ask the same together. -/
theorem Nested.exists_run (nested : Nested relation tokens operands) :
    ∃ parts, Run relation tokens parts ∧ parts ≠ [] ∧ ∀ mode record,
      (relation.Among (fun query => query.marks mode record = true) parts ↔
        relation.Among (fun query => query.marks mode record = true) operands) := by
  induction nested with
  | @operand _ query single => exact ⟨[query], .last single, by simp, fun _ _ => Iff.rfl⟩
  | joined _ _ front back =>
    obtain ⟨parts, first, some, same⟩ := front
    obtain ⟨others, second, -, alike⟩ := back
    refine ⟨parts ++ others, first.append second, by simp [some], fun mode record => ?_⟩
    exact SetRelation.among_append_congr (same mode record) (alike mode record)
  | bracketed _ inner =>
    -- What is in brackets becomes a single operand that asks what its own operands ask.
    obtain ⟨parts, run, some, same⟩ := inner
    refine ⟨[ofOperands relation parts], .last run.bracketed, by simp, fun mode record => ?_⟩
    rw [SetRelation.among_singleton, marks_ofOperands_iff some, same]

end Query

namespace QueryTree

/-- A nested run is the text of a tree, which selects what as many operands of the run as the relation asks
select. -/
theorem parse_nested {relation : SetRelation} {text : String} {operands : List Query}
    (nested : Query.Nested relation (Token.split text.toList) operands) :
    ∃ tree, parse text = .ok tree ∧ ∀ mode record, (tree.marks mode record = true ↔
      relation.Among (fun query => query.marks mode record = true) operands) := by
  obtain ⟨parts, run, some, same⟩ := nested.exists_run
  have derived := run.disjunction
  refine ⟨_, parse_eq_ok_iff.mpr ⟨_, derived, rfl⟩, fun mode record => ?_⟩
  rw [marks_ofQuery derived.compact, Query.marks_ofOperands_iff some, same]

/-- Two trees are evaluated in the same way. -/
def Agrees (left right : QueryTree) : Prop :=
  ∀ mode records, right.mask mode records = left.mask mode records ∧
    right.select mode records = left.select mode records

/-- It suffices that the trees have the same bits. -/
theorem Agrees.of_marks {left right : QueryTree}
    (same : ∀ mode record, right.marks mode record = left.marks mode record) : left.Agrees right := by
  intro mode records
  have bits : right.marks mode = left.marks mode := funext (same mode)
  rw [mask_eq_map, mask_eq_map, select_eq_filter, select_eq_filter, bits]
  exact ⟨rfl, rfl⟩

/-- Trees agree if the query of one of them has been rewritten to that of the other. -/
theorem Agrees.of_rewritten {left right : QueryTree} {query other : Query}
    (first : left.nodes.StandsFor left.root query) (second : right.nodes.StandsFor right.root other)
    (full : query.Full) (changes : Relation.ReflTransGen Query.Rewrites query other) :
    left.Agrees right := by
  refine .of_marks fun mode record => ?_
  -- Each tree selects what its own query selects.
  rw [marks_eq, marks_eq, seen_eq first, seen_eq second]
  exact (Query.marks_of_rewritten changes full mode record).2

/-- The children of a group somewhere in a tree have been rearranged. -/
inductive Rearranges : QueryTree → QueryTree → Prop where
  | group {tree : QueryTree} {target : NodeId} {relation : SetRelation} {children others : List NodeId}
      (listed : tree.nodes[target.index]? = some (.group relation children))
      (change : tree.nodes.Rearranges relation children others) :
      Rearranges tree { tree with nodes := tree.nodes.regrouped target relation others }

/-- The query of a tree is rewritten when groups of the tree are rearranged. -/
theorem stands_of_rearranged {left right : QueryTree} {query : Query}
    (changes : Relation.ReflTransGen Rearranges left right)
    (stands : left.nodes.StandsFor left.root query) :
    ∃ other, right.nodes.StandsFor right.root other ∧
      Relation.ReflTransGen Query.Rewrites query other := by
  -- Each rearrangement starts from the query that those before it have left.
  induction changes with
  | refl => exact ⟨query, stands, .refl⟩
  | tail _ last ih =>
    obtain ⟨middle, now, before⟩ := ih
    cases last with
    | group listed change =>
      obtain ⟨other, after, further⟩ := now.regrouped listed change
      exact ⟨other, after, before.trans further⟩

/-- Rewriting keeps what is selected, if no group of the query is empty: reordering, repeating or splicing the
operands of groups, at any depth and any number of times, in the nodes of a tree or from one tree to another.
In the same way a run of operands without brackets agrees with every way to bracket it into groups of its
operator. -/
theorem rewritten_agrees :
    (∀ (left right : QueryTree) (query : Query), left.nodes.StandsFor left.root query → query.Full →
      Relation.ReflTransGen Rearranges left right → left.Agrees right) ∧
    (∀ (left right : QueryTree) (query other : Query), left.nodes.StandsFor left.root query →
      right.nodes.StandsFor right.root other → query.Full →
      Relation.ReflTransGen Query.Rewrites query other → left.Agrees right) ∧
    ∀ (relation : SetRelation) (operands : List Query) (plain text : String),
      Query.Run relation (Token.split plain.toList) operands →
      Query.Nested relation (Token.split text.toList) operands →
      ∃ left right, parse plain = .ok left ∧ parse text = .ok right ∧ left.Agrees right := by
  refine ⟨?_, ?_, ?_⟩
  · intro left right query stands full changes
    obtain ⟨other, after, rewritten⟩ := stands_of_rearranged changes stands
    exact .of_rewritten stands after full rewritten
  · intro left right query other first second full changes
    exact .of_rewritten first second full changes
  · intro relation operands plain text run nested
    -- Both texts select what as many of the operands as the relation asks select.
    obtain ⟨left, first, one⟩ := parse_nested run.nested
    obtain ⟨right, second, two⟩ := parse_nested nested
    refine ⟨left, right, first, second, .of_marks fun mode record => ?_⟩
    rw [Bool.eq_iff_iff, one mode record, two mode record]

/-- An alternative with a number as its value. -/
def costing (value : String) : Query := .test ⟨.cmc, .none, .equal, value⟩

/-- A union inside a union, with its group in front of it. -/
def nestedCosts : QueryTree where
  nodes := #[.group .union [⟨1⟩, ⟨2⟩], .test ⟨.cmc, .none, .equal, "1"⟩, .group .union [⟨3⟩, ⟨4⟩],
    .test ⟨.cmc, .none, .equal, "2"⟩, .test ⟨.cmc, .none, .equal, "3"⟩]
  root := ⟨0⟩

/-- The same union with all alternatives in one group, one of them twice. -/
def flatCosts : QueryTree where
  nodes := #[.test ⟨.cmc, .none, .equal, "3"⟩, .test ⟨.cmc, .none, .equal, "2"⟩,
    .test ⟨.cmc, .none, .equal, "1"⟩, .group .union [⟨0⟩, ⟨1⟩, ⟨1⟩, ⟨2⟩]]
  root := ⟨3⟩

/-- Splicing, reordering and repeating make the flat union of the nested one, and brackets do not matter. -/
theorem rewritten_agrees_costs :
    nestedCosts.Agrees
        { nestedCosts with nodes := nestedCosts.nodes.regrouped ⟨0⟩ .union [⟨1⟩, ⟨3⟩, ⟨4⟩] } ∧
      nestedCosts.Agrees flatCosts ∧
      ∃ left right, parse "cmc = 1 || cmc = 2 || cmc = 3" = .ok left ∧
        parse "[cmc = 1 || [cmc = 2]] || cmc = 3" = .ok right ∧ left.Agrees right := by
  obtain ⟨edited, rewritten, bracketed⟩ := rewritten_agrees
  -- Both trees stand for unions of the same three costs, one of them nested and the other one flat.
  have nested : nestedCosts.nodes.StandsFor nestedCosts.root
      (.group .union [costing "1", .group .union [costing "2", costing "3"]]) :=
    .of_children rfl (.cons (.test rfl)
      (.cons (.of_children rfl (.cons (.test rfl) (.cons (.test rfl) .nil))) .nil))
  have flat : flatCosts.nodes.StandsFor flatCosts.root
      (.group .union [costing "3", costing "2", costing "2", costing "1"]) :=
    .of_children rfl (.cons (.test rfl) (.cons (.test rfl) (.cons (.test rfl) (.cons (.test rfl) .nil))))
  have full : (Query.group .union [costing "1", .group .union [costing "2", costing "3"]]).Full :=
    .group .union (by simp) (List.forall_mem_cons.mpr ⟨.test _, List.forall_mem_singleton.mpr
      (.group .union (by simp) (List.forall_mem_cons.mpr ⟨.test _,
        List.forall_mem_singleton.mpr (.test _)⟩))⟩)
  refine ⟨edited _ _ _ nested full (.single (.group rfl (.spliced [⟨1⟩] ⟨2⟩ [⟨3⟩, ⟨4⟩] [] rfl))),
    rewritten _ _ _ _ nested flat full ?_, ?_⟩
  · -- The inner union is spliced, the three alternatives are reversed, and the middle one is repeated.
    refine .tail (.tail (.single (.spliced .union [costing "1"] [costing "2", costing "3"] []))
      (.permuted .union ?_)) (.repeated .union [costing "3"] (costing "2") [costing "1"])
    exact List.reverse_perm [costing "3", costing "2", costing "1"]
  · -- The blanks around an expression go with it, and are trimmed when it is read.
    have one : Query.Conjunction [.expression "cmc = 1 ".toList] (costing "1") :=
      .chain (.last (.expression (by rfl)))
    have two : Query.Conjunction [.expression " cmc = 2 ".toList] (costing "2") :=
      .chain (.last (.expression (by rfl)))
    have inner : Query.Conjunction [.expression "cmc = 2".toList] (costing "2") :=
      .chain (.last (.expression (by rfl)))
    have three : Query.Conjunction [.expression " cmc = 3".toList] (costing "3") :=
      .chain (.last (.expression (by rfl)))
    have plain : Token.split "cmc = 1 || cmc = 2 || cmc = 3".toList =
        [Token.expression "cmc = 1 ".toList] ++ Token.or :: ([Token.expression " cmc = 2 ".toList] ++
          Token.or :: [Token.expression " cmc = 3".toList]) := by rfl
    have text : Token.split "[cmc = 1 || [cmc = 2]] || cmc = 3".toList =
        (Token.opening :: (([Token.expression "cmc = 1 ".toList] ++ Token.or ::
          (Token.opening :: ([Token.expression "cmc = 2".toList] ++ [Token.closing]))) ++
            [Token.closing])) ++ Token.or :: [Token.expression " cmc = 3".toList] := by rfl
    refine bracketed .union [costing "1", costing "2", costing "3"] _ _ ?_ ?_
    · rw [plain]
      exact .before one (.before two (.last three))
    · rw [text]
      have front : Query.Nested .union _ _ := .operand one
      have back : Query.Nested .union _ _ := .operand inner
      exact (front.joined back.bracketed).bracketed.joined (.operand three)

end QueryTree

end Decksmith
