import Decksmith.Proofs.Query.Predicate
import Decksmith.Proofs.Query.Rendering
import Mathlib.Algebra.Order.BigOperators.Group.List
import Mathlib.Algebra.Order.Ring.Int
import Mathlib.Tactic.Linarith
import Mathlib.Tactic.Ring

/-! Counting tokens: what a derivation and a canonical text say about how many of each kind there are. -/

namespace Decksmith

/-- How much the tokens of each kind count. A closing bracket counts against an opening one. -/
structure Scale where
  expression : Int
  operator : Int
  bracket : Int

namespace Scale

/-- How much a token counts. -/
def weight (scale : Scale) : Token → Int
  | .opening => scale.bracket
  | .closing => -scale.bracket
  | .and => scale.operator
  | .or => scale.operator
  | .expression _ => scale.expression

/-- How much some tokens count together. -/
def total (scale : Scale) (tokens : List Token) : Int :=
  (tokens.map scale.weight).sum

@[simp] theorem total_nil (scale : Scale) : scale.total [] = 0 := rfl

@[simp] theorem total_cons (scale : Scale) (token : Token) (tokens : List Token) :
    scale.total (token :: tokens) = scale.weight token + scale.total tokens := by
  simp [total]

@[simp] theorem total_append (scale : Scale) (front back : List Token) :
    scale.total (front ++ back) = scale.total front + scale.total back := by
  simp [total]

@[simp] theorem weight_opening (scale : Scale) : scale.weight .opening = scale.bracket := rfl

@[simp] theorem weight_closing (scale : Scale) : scale.weight .closing = -scale.bracket := rfl

@[simp] theorem weight_expression (scale : Scale) (text : List Char) :
    scale.weight (.expression text) = scale.expression := rfl

@[simp] theorem weight_token (scale : Scale) (relation : SetRelation) :
    scale.weight relation.token = scale.operator := by
  cases relation <;> rfl

/-- Tokens of which none counts negatively have a total of zero only if none counts. -/
theorem weight_eq_zero {scale : Scale} {tokens : List Token}
    (nonneg : ∀ token ∈ tokens, 0 ≤ scale.weight token) (none : scale.total tokens = 0) :
    ∀ token ∈ tokens, scale.weight token = 0 := by
  have all : ∀ weight ∈ tokens.map scale.weight, 0 ≤ weight := by simpa using nonneg
  intro token member
  exact List.all_zero_of_le_zero_le_of_sum_eq_zero all none (List.mem_map_of_mem member)

end Scale

/-- Two tokens that may follow each other: an operand does not start right behind another one. -/
def Token.MayFollow (first second : Token) : Prop :=
  second = .opening → first ≠ .closing ∧ ∀ words, first ≠ .expression words

/-- Anything may follow a token that ends no operand. -/
theorem Token.MayFollow.of_operator {first second : Token}
    (unfinished : first ≠ .closing ∧ ∀ words, first ≠ .expression words) :
    MayFollow first second := fun _ => unfinished

/-- A token that is no opening bracket may follow anything. -/
theorem Token.MayFollow.of_ne {first second : Token} (other : second ≠ .opening) :
    MayFollow first second := fun same => absurd same other

/-- Behind the end of an operand there are no brackets but closing ones. -/
theorem Token.closing_of_isChain {first : Token} {rest : List Token}
    (ended : first = .closing ∨ ∃ words, first = .expression words)
    (chain : (first :: rest).IsChain MayFollow)
    (brackets : ∀ token ∈ rest, token = .opening ∨ token = .closing) :
    ∀ token ∈ rest, token = .closing := by
  induction rest generalizing first with
  | nil => simp
  | cons second others ih =>
    obtain ⟨follows, chain⟩ := List.isChain_cons_cons.mp chain
    obtain ⟨bracket, brackets⟩ := List.forall_mem_cons.mp brackets
    -- An operand has just ended, so no other one may start here.
    have closes : second = .closing := by
      refine bracket.resolve_left fun opens => ?_
      obtain ⟨unclosed, unread⟩ := follows opens
      rcases ended with closed | ⟨words, read⟩
      · exact unclosed closed
      · exact unread words read
    exact List.forall_mem_cons.mpr ⟨closes, ih (.inl closes) chain brackets⟩

namespace Query

/-- The predicates of some queries are those of each. -/
theorem mem_predicatesOf {p : Predicate} {queries : List Query} :
    p ∈ predicatesOf queries ↔ ∃ query ∈ queries, p ∈ query.predicates := by
  induction queries with
  | nil => simp [predicatesOf]
  | cons query others ih => simp [predicatesOf, ih]

/-- Grouping keeps the predicates, also when a single operand stands for itself. -/
theorem predicates_ofOperands (relation : SetRelation) (operands : List Query) :
    (ofOperands relation operands).predicates = predicatesOf operands := by
  -- Whether or not a group is made, the operands stay in their order.
  match operands with
  | [] => rfl
  | [query] => simp [ofOperands, predicatesOf]
  | _ :: _ :: _ => simp [ofOperands, predicates]

/-- The predicates of a derived query are read from expressions among its tokens. -/
theorem Disjunction.exists_expression {tokens : List Token} {query : Query}
    (derived : Disjunction tokens query) :
    ∀ p ∈ query.predicates,
      ∃ words, .expression words ∈ tokens ∧ Predicate.ofChars words = .ok p := by
  have closed : Closed fun tokens operands => ∀ p ∈ predicatesOf operands,
      ∃ words, .expression words ∈ tokens ∧ Predicate.ofChars words = .ok p :=
    { expression := fun read => by simpa [predicatesOf, predicates] using read
      bracketed := fun inner => by simpa using inner
      -- Each predicate comes from one of the two sides.
      join := fun relation _ _ _ _ first others => by
        simp only [predicatesOf, List.append_nil, List.forall_mem_append] at first ⊢
        refine ⟨fun p member => ?_, fun p member => ?_⟩
        · obtain ⟨words, found, read⟩ := first p member
          exact ⟨words, by simp [found], read⟩
        · obtain ⟨words, found, read⟩ := others p member
          exact ⟨words, by simp [found], read⟩
      chain := fun relation _ operands parts => by
        simpa [predicatesOf, predicates_ofOperands] using parts }
  simpa [predicatesOf] using derived.induct closed

/-- No operand starts right behind another one in derived tokens. -/
theorem Disjunction.mayFollow {tokens : List Token} {query : Query}
    (derived : Disjunction tokens query) : tokens.IsChain Token.MayFollow := by
  have closed : Closed fun tokens _ => tokens.IsChain Token.MayFollow :=
    { expression := fun _ => .singleton _
      bracketed := fun inner => by
        -- The closing bracket may follow anything, and anything the opening one.
        have closed := inner.append (.singleton .closing) fun first _ second last => by
          obtain rfl : Token.closing = second := by simpa using last
          exact .of_ne (by simp)
        exact closed.cons fun _ _ => .of_operator (by simp)
      -- An operator may follow anything, and anything may follow it.
      join := fun relation _ _ _ _ first others =>
        first.append (others.cons fun _ _ => .of_operator (by cases relation <;> simp [SetRelation.token]))
          fun _ _ second last => by
            obtain rfl : relation.token = second := by simpa using last
            exact .of_ne (by cases relation <;> simp [SetRelation.token])
      chain := fun _ _ _ parts => parts }
  exact derived.induct closed

/-- Derived tokens have an expression for each predicate, an operator between any two of them, and as
many opening as closing brackets. -/
theorem Disjunction.total {tokens : List Token} {query : Query}
    (derived : Disjunction tokens query) (scale : Scale) :
    scale.total tokens = query.predicates.length * scale.expression +
      (query.predicates.length - 1) * scale.operator := by
  have closed : Closed fun tokens operands =>
      scale.total tokens = (predicatesOf operands).length * scale.expression +
        ((predicatesOf operands).length - 1) * scale.operator :=
    { expression := fun _ => by simp [predicatesOf, predicates, Scale.weight]
      bracketed := fun inner => by
        simp only [Scale.total_cons, Scale.total_append, Scale.total_nil, Scale.weight_opening,
          Scale.weight_closing, inner]
        ring
      -- One operator joins the operands on its two sides.
      join := fun relation _ _ _ _ first others => by
        simp only [Scale.total_cons, Scale.total_append, Scale.weight_token, first, others,
          predicatesOf, List.length_append, List.length_nil, Nat.add_zero]
        push_cast
        ring
      chain := fun relation _ operands parts => by
        simpa [predicatesOf, predicates_ofOperands] using parts }
  simpa [predicatesOf] using derived.induct closed

/-- A query in which no group is without operands. -/
inductive Full : Query → Prop where
  | test (predicate : Predicate) : Full (test predicate)
  | group (relation : SetRelation) {operands : List Query} (some : operands ≠ [])
      (parts : ∀ query ∈ operands, Full query) : Full (group relation operands)

/-- What a full group consists of. -/
theorem Full.operands {relation : SetRelation} {operands : List Query}
    (full : (Query.group relation operands).Full) : operands ≠ [] ∧ ∀ query ∈ operands, query.Full := by
  cases full with
  | group _ some parts => exact ⟨some, parts⟩

/-- A group of operands has operands, and a single operand is full by itself. -/
theorem Full.ofOperands {relation : SetRelation} {operands : List Query} (some : operands ≠ [])
    (parts : ∀ query ∈ operands, Full query) : Full (ofOperands relation operands) := by
  match operands with
  | [] => exact absurd rfl some
  | [query] => exact parts query (by simp)
  | first :: second :: others => exact .group relation (by simp) parts

/-- A derived query is full. -/
theorem Disjunction.full {tokens : List Token} {query : Query}
    (derived : Disjunction tokens query) : query.Full := by
  -- Every production has operands, which the bracketed and joined ones pass on.
  have closed : Closed fun _ operands => operands ≠ [] ∧ ∀ operand ∈ operands, Full operand :=
    { expression := fun _ => ⟨by simp, by simpa using .test _⟩
      bracketed := fun inner => inner
      join := fun _ _ _ _ _ first others =>
        ⟨by simp, List.forall_mem_cons.mpr ⟨first.2 _ (by simp), others.2⟩⟩
      chain := fun _ _ _ parts => ⟨by simp, by simpa using Full.ofOperands parts.1 parts.2⟩ }
  exact (derived.induct closed).2 query (by simp)

/-- The tokens of an operand stand together in those of its group. -/
theorem infix_spelled_group (relation : SetRelation) {operands : List Query} :
    ∀ operand ∈ operands, operand.spelled <:+: (group relation operands).spelled := by
  induction operands with
  | nil => simp
  | cons first others ih =>
    cases others with
    | nil =>
      rw [List.forall_mem_singleton, spelled_single]
      exact ⟨[.opening], [.closing], by simp⟩
    | cons second others =>
      rw [List.forall_mem_cons, spelled_cons]
      -- The first operand stands behind the first bracket, and the later ones in the rest.
      refine ⟨⟨[.opening], .closing :: relation.token :: (group relation (second :: others)).spelled,
        by simp⟩, fun operand later => ?_⟩
      have behind : (group relation (second :: others)).spelled <:+ .opening :: (first.spelled ++
          .closing :: relation.token :: (group relation (second :: others)).spelled) :=
        ⟨.opening :: (first.spelled ++ [.closing, relation.token]), by simp⟩
      exact (ih operand later).trans behind.isInfix

/-- The tokens of a predicate stand together in those of its query. -/
theorem Full.infix_spelled {query : Query} (full : query.Full) :
    ∀ p ∈ query.predicates, (Query.test p).spelled <:+: query.spelled := by
  -- The text of an operand stands within that of its group.
  induction full with
  | test p => simp [predicates]
  | @group relation operands some parts ih =>
    intro p member
    obtain ⟨operand, here, within⟩ := mem_predicatesOf.mp member
    exact (ih operand here p within).trans (infix_spelled_group relation operand here)

/-- The text of a query adds an operator between any two predicates, and pairs of brackets, to the
tokens of the predicates. -/
theorem Full.total {query : Query} (full : query.Full) (scale : Scale) :
    scale.total query.spelled =
      (query.predicates.map fun p => scale.total (Query.test p).spelled).sum +
        (query.predicates.length - 1) * scale.operator := by
  induction full with
  | test p => simp [predicates]
  | @group relation operands some parts ih =>
    rw [predicates]
    -- The operands are counted one by one, each with the operator in front of it.
    induction operands with
    | nil => exact absurd rfl some
    | cons first others further =>
      have here := ih first (by simp)
      cases others with
      | nil => simp [spelled_single, here, predicatesOf]
      | cons second others =>
        have behind := further (by simp) (fun query member => parts query (by simp [member]))
          (fun query member => ih query (by simp [member]))
        rw [predicatesOf, spelled_cons]
        simp only [Scale.total_cons, Scale.total_append, Scale.weight_opening,
          Scale.weight_closing, Scale.weight_token, here, behind, List.map_append, List.sum_append,
          List.length_append]
        push_cast
        ring

/-- The structural tokens of some predicates behind the first of each. -/
def surplus (predicates : List Predicate) : List Token :=
  predicates.flatMap fun p => (test p).spelled.tail

/-- Every predicate is spelled by an expression and its surplus. -/
theorem total_surplus (scale : Scale) (predicates : List Predicate) :
    (predicates.map fun p => scale.total (test p).spelled).sum =
      predicates.length * scale.expression + scale.total (surplus predicates) := by
  induction predicates with
  | nil => simp [surplus]
  | cons p others ih =>
    -- The first token of each is an expression, whatever its value holds.
    obtain ⟨words, rest, shape⟩ : ∃ words rest, (test p).spelled = .expression words :: rest :=
      p.split_render_expression
    rw [List.map_cons, List.sum_cons, ih, shape]
    simp only [surplus, List.flatMap_cons, shape, List.tail_cons, Scale.total_cons,
      Scale.total_append, Scale.weight_expression, List.length_cons]
    push_cast
    ring

/-- If the text of a query derives that query, then its predicates have no surplus. -/
theorem Full.surplus_eq_nil {query : Query} (full : query.Full)
    (derived : Disjunction query.spelled query) : surplus query.predicates = [] := by
  -- What the text and the derivation count is the same, so the surplus counts for nothing.
  have none : ∀ scale : Scale, scale.total (surplus query.predicates) = 0 := by
    intro scale
    have counted := full.total scale
    rw [derived.total scale, total_surplus] at counted
    linarith
  -- Expressions and operators all count the same way, so there are only brackets.
  have brackets : ∀ token ∈ surplus query.predicates, token = .opening ∨ token = .closing := by
    have nonneg : ∀ token ∈ surplus query.predicates, 0 ≤ Scale.weight ⟨1, 1, 0⟩ token := by
      intro token _
      cases token <;> simp [Scale.weight]
    intro token member
    have zero := Scale.weight_eq_zero nonneg (none _) token member
    cases token <;> simp [Scale.weight] at zero ⊢
  -- No bracket opens behind an expression, so there are only closing ones.
  have closings : ∀ token ∈ surplus query.predicates, token = .closing := by
    intro token member
    obtain ⟨p, here, within⟩ := List.mem_flatMap.mp member
    obtain ⟨words, rest, shape⟩ : ∃ words rest, (Query.test p).spelled = .expression words :: rest :=
      p.split_render_expression
    have chain := derived.mayFollow.infix (full.infix_spelled p here)
    rw [shape] at chain within
    refine Token.closing_of_isChain (.inr ⟨words, rfl⟩) chain (fun other later => ?_) token within
    exact brackets other (List.mem_flatMap.mpr ⟨p, here, by rwa [shape]⟩)
  have nonneg : ∀ token ∈ surplus query.predicates, 0 ≤ Scale.weight ⟨0, 0, -1⟩ token := by
    intro token member
    simp [closings token member]
  refine List.eq_nil_iff_forall_not_mem.mpr fun token member => ?_
  have zero := Scale.weight_eq_zero nonneg (none _) token member
  simp [closings token member] at zero

end Query

end Decksmith
