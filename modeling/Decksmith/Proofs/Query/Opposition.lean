import Decksmith.Proofs.Binary64.Order
import Decksmith.Query.Criterion

/-! Predicates that ask for opposites. No value passes both of them, and one that gives them something to look
at passes exactly one. -/

namespace Decksmith

/-- Of two answers at most one is positive, and in a certain case exactly one. -/
structure Opposed (certain : Prop) (answer opposite : Bool) : Prop where
  apart : ¬ (answer = true ∧ opposite = true)
  complete : certain → opposite = !answer

namespace Opposed

variable {certain : Prop} {answer opposite : Bool}

/-- An answer and its negation are opposed in any case. -/
theorem of_not (negated : opposite = !answer) : Opposed certain answer opposite := by
  refine ⟨?_, fun _ => negated⟩
  -- Two positive answers would make one the negation of the other.
  rintro ⟨rfl, positive⟩
  rw [positive] at negated
  cases negated

/-- Being opposed goes both ways. -/
theorem symm (opposed : Opposed certain answer opposite) : Opposed certain opposite answer := by
  refine ⟨fun both => opposed.apart both.symm, fun sure => ?_⟩
  rw [opposed.complete sure, Bool.not_not]

/-- What is certain in one case is so in every case that implies it. -/
theorem mono {stronger : Prop} (implied : stronger → certain)
    (opposed : Opposed certain answer opposite) : Opposed stronger answer opposite :=
  ⟨opposed.apart, fun sure => opposed.complete (implied sure)⟩

/-- If the answers are opposed item by item, then one of the first kind is opposed to all of the second. -/
theorem any_all {α : Type} {items : List α} {answer opposite : α → Bool}
    (opposed : ∀ item ∈ items, Opposed certain (answer item) (opposite item)) :
    Opposed certain (items.any answer) (items.all opposite) := by
  constructor
  -- An item of the first kind would be of the second one as well.
  · rintro ⟨some, all⟩
    obtain ⟨item, member, positive⟩ := List.any_eq_true.mp some
    exact (opposed item member).apart ⟨positive, List.all_eq_true.mp all item member⟩
  -- In a certain case each item gives opposite answers, so the laws of negation apply.
  · intro sure
    have negated : ∀ item ∈ items, opposite item = !answer item :=
      fun item member => (opposed item member).complete sure
    rw [List.not_any_eq_all_not, Bool.eq_iff_iff, List.all_eq_true, List.all_eq_true]
    exact forall₂_congr fun item member => by rw [negated item member]

/-- And all of the first kind are opposed to one of the second. -/
theorem all_any {α : Type} {items : List α} {answer opposite : α → Bool}
    (opposed : ∀ item ∈ items, Opposed certain (answer item) (opposite item)) :
    Opposed certain (items.all answer) (items.any opposite) :=
  (any_all fun item member => (opposed item member).symm).symm

end Opposed

/-- The order that asks for the opposite of another one. -/
def OrderRelation.dual : OrderRelation → OrderRelation
  | greater => lessOrEqual
  | greaterOrEqual => less
  | less => greaterOrEqual
  | lessOrEqual => greater

/-- The relation that asks for the opposite of another one. -/
def Relation.dual : Relation → Relation
  | .equal => .notEqual
  | .notEqual => .equal
  | .order asked => .order asked.dual
  | .includes => .excludes
  | .excludes => .includes

/-- The predicate that asks the same field and literal for the opposite. -/
def Predicate.dual (p : Predicate) : Predicate :=
  { p with relation := p.relation.dual }

/-- The number that an order looks at: that of the value, or the length of a list if the items are
counted. -/
def Predicate.number? (p : Predicate) : FieldValue → Option Float
  | .list items =>
    if p.modifier = .count then (FieldValue.number (Float.ofNat items.length)).asNumber? else none
  | value => value.asNumber?

/-- What a predicate must find so that it answers by the value and not by default. Equality always
does, a pattern needs a value to look at, and an order needs two numbers. -/
def Predicate.Decisive (p : Predicate) (value : FieldValue) : Prop :=
  match p.relation with
  | .equal | .notEqual => True
  | .includes | .excludes => (Pattern.compile? p.value).isSome = true ∧ value ≠ .absent
  | .order _ => (p.number? value).isSome = true ∧ (Decimal.readFinite? p.value).isSome = true

namespace Predicate

variable {p : Predicate}

/-- The number of a single value is looked at as it is. -/
theorem number?_single (p : Predicate) {value : FieldValue} (single : value.asList? = none) :
    p.number? value = value.asNumber? := by
  -- Only lists are treated apart.
  cases value with
  | list items => cases single
  | _ => rfl

/-- Only an order has an order as its dual. -/
theorem dual_ne_order (other : ∀ order, p.relation ≠ .order order) (order : OrderRelation) :
    p.dual.relation ≠ .order order := by
  -- The dual of an order is an order, and the dual of anything else is none.
  intro asks
  obtain ⟨key, modifier, relation, literal⟩ := p
  cases relation with
  | order own => exact other own rfl
  | _ => cases asks

/-- A predicate that asks for no order is decisive on texts if it is so on some value. -/
theorem Decisive.onText {value : FieldValue} (decisive : p.Decisive value)
    (other : ∀ order, p.relation ≠ .order order) (text : String) : p.Decisive (.text text) := by
  -- Equality asks for nothing, and a pattern only for a value, which a text is.
  obtain ⟨key, modifier, relation, literal⟩ := p
  cases relation with
  | equal => trivial
  | notEqual => trivial
  | order order => exact absurd rfl (other order)
  | includes => exact ⟨decisive.1, nofun⟩
  | excludes => exact ⟨decisive.1, nofun⟩

/-- A predicate that counts the items of a list is as decisive on their number. -/
theorem Decisive.onLength {items : List String} (counts : p.modifier = .count)
    (decisive : p.Decisive (.list items)) : p.Decisive (.number (Float.ofNat items.length)) := by
  obtain ⟨key, modifier, relation, literal⟩ := p
  cases relation with
  | equal => trivial
  | notEqual => trivial
  -- The number an order looks at is the length in either case.
  | order order => rwa [Decisive, number?, if_pos counts] at decisive
  | includes => exact ⟨decisive.1, nofun⟩
  | excludes => exact ⟨decisive.1, nofun⟩

end Predicate

/-- Numbers that are read are finite. -/
theorem Decimal.isFinite_of_readFinite? {text : String} {x : Float} (read : readFinite? text = some x) :
    x.isFinite = true :=
  (Option.filter_eq_some_iff.mp read).2

/-- The number of a value is finite. -/
theorem FieldValue.isFinite_of_asNumber? {value : FieldValue} {x : Float}
    (found : value.asNumber? = some x) : x.isFinite = true := by
  -- A text is read as a finite number only, and a number is passed on only if it is finite.
  cases value with
  | text text => exact Decimal.isFinite_of_readFinite? found
  | number y =>
    obtain ⟨finite, same⟩ := Option.ite_none_right_eq_some.mp found
    exact Option.some.inj same ▸ finite
  | flag _ => cases found
  | list _ => cases found
  | absent => cases found

/-- Only a list has items. -/
theorem FieldValue.eq_list_of_asList? {value : FieldValue} {items : List String}
    (found : value.asList? = some items) : value = .list items := by
  cases value with
  | list own => exact congrArg list (Option.some.inj found)
  | _ => cases found

/-- An order and its dual are opposed, in any case for finite numbers. -/
theorem OrderRelation.holds_dual (order : OrderRelation) (x y : Float) :
    Opposed (x.isFinite = true ∧ y.isFinite = true) (order.holds x y) (order.dual.holds x y) := by
  -- One pair is enough, since the others are it with the sides or the answers exchanged.
  have strict : ∀ x y : Float,
      Opposed (x.isFinite = true ∧ y.isFinite = true) (decide (y < x)) (decide (x ≤ y)) := by
    intro x y
    refine ⟨fun ⟨larger, most⟩ => ?_, fun ⟨left, right⟩ => ?_⟩
    · exact Binary64.not_le_of_lt (of_decide_eq_true larger) (of_decide_eq_true most)
    · by_cases larger : y < x
      · simp [larger, Binary64.not_le_of_lt larger]
      · simp [larger, Binary64.le_of_not_lt left right larger]
  cases order with
  | greater => exact strict x y
  | greaterOrEqual => exact (strict y x).symm.mono And.symm
  | less => exact (strict y x).mono And.symm
  | lessOrEqual => exact (strict x y).symm

namespace Criterion

/-- The number of a predicate is that of its literal, whatever it asks. -/
@[simp] theorem number_ofPredicate (p : Predicate) :
    (ofPredicate p).number = Decimal.readFinite? p.value := by rw [ofPredicate]

/-- An order of numbers that may be missing is opposed to its dual, in any case if both are there. -/
theorem ordered_dual (order : OrderRelation) {field literal : Option Float}
    (left : ∀ x, field = some x → x.isFinite = true)
    (right : ∀ y, literal = some y → y.isFinite = true) :
    Opposed (field.isSome = true ∧ literal.isSome = true) (ordered order field literal)
      (ordered order.dual field literal) := by
  -- Where a number is missing, neither order accepts.
  match field, literal with
  | some x, some y => exact (order.holds_dual x y).mono fun _ => ⟨left x rfl, right y rfl⟩
  | none, _ => exact ⟨nofun, nofun⟩
  | some _, none => exact ⟨nofun, nofun⟩

/-- Looking for a pattern is opposed to looking for its absence, in any case if there is a pattern. -/
theorem any_isIn_dual (pattern : Option Pattern) (text : String) :
    Opposed (pattern.isSome = true) (pattern.any fun pattern => pattern.isIn text)
      (pattern.any fun pattern => !pattern.isIn text) := by
  cases pattern with
  | none => exact ⟨nofun, nofun⟩
  | some pattern => exact .of_not rfl

variable {mode : CaseMode}

/-- A predicate and its dual are opposed on texts. -/
theorem acceptsText_dual (p : Predicate) (text : String) :
    Opposed (p.Decisive (.text text)) ((ofPredicate p).acceptsText mode text)
      ((ofPredicate p.dual).acceptsText mode text) := by
  -- Five relations come in two pairs and the orders, and each pair is opposed for its own reason.
  obtain ⟨key, modifier, relation, literal⟩ := p
  simp only [Predicate.Decisive, Predicate.number?, FieldValue.asNumber?, acceptsText, ofPredicate,
    Predicate.dual]
  cases relation with
  | equal => exact .of_not rfl
  | notEqual => exact .of_not (Bool.not_not _).symm
  | order order =>
    exact ordered_dual order (fun _ => Decimal.isFinite_of_readFinite?)
      fun _ => Decimal.isFinite_of_readFinite?
  | includes => exact (any_isIn_dual (Pattern.compile? literal) text).mono And.left
  | excludes => exact (any_isIn_dual (Pattern.compile? literal) text).symm.mono And.left

/-- An order looks at the number of a single value. -/
theorem acceptsScalar_order {criterion : Criterion} {order : OrderRelation}
    (asks : criterion.predicate.relation = .order order) (value : FieldValue) :
    criterion.acceptsScalar mode value = ordered order value.asNumber? criterion.number := by
  simp only [acceptsScalar, asks]

/-- Any other relation looks at its text. -/
theorem acceptsScalar_of_asText? {criterion : Criterion}
    (other : ∀ order, criterion.predicate.relation ≠ .order order) {value : FieldValue} {text : String}
    (found : value.asText? = some text) :
    criterion.acceptsScalar mode value = criterion.acceptsText mode text := by
  -- Where the text is known, it is all that is tested.
  rw [acceptsScalar]
  split
  · rename_i order asks
    exact absurd asks (other order)
  · rw [found]

/-- Of what is absent only inequality holds. -/
theorem acceptsScalar_absent (criterion : Criterion) :
    criterion.acceptsScalar mode .absent = decide (criterion.predicate.relation = .notEqual) := by
  rw [acceptsScalar]
  split
  -- An order finds no number.
  · rename_i order asks
    simp [asks, FieldValue.asNumber?, ordered]
  · rfl

/-- Of a list the number of its items is tested if they are counted, and otherwise the items are. -/
theorem accepts_list (criterion : Criterion) (items : List String) :
    criterion.accepts mode (.list items) =
      if criterion.predicate.modifier = .count then
        criterion.acceptsScalar mode (.number (Float.ofNat items.length))
      else criterion.acceptsItems mode items := rfl

/-- Any other value is tested as it is. -/
theorem accepts_single (criterion : Criterion) {value : FieldValue} (single : value.asList? = none) :
    criterion.accepts mode value = criterion.acceptsScalar mode value := by
  cases value with
  | list items => cases single
  | _ => rfl

/-- A predicate and its dual are opposed on single values. -/
theorem acceptsScalar_dual (p : Predicate) {value : FieldValue} (single : value.asList? = none) :
    Opposed (p.Decisive value) ((ofPredicate p).acceptsScalar mode value)
      ((ofPredicate p.dual).acceptsScalar mode value) := by
  cases found : value.asText? with
  | none =>
    -- Only what is absent has no text.
    obtain rfl : value = .absent := by
      cases value with
      | absent => rfl
      | _ => cases found
    rw [acceptsScalar_absent, acceptsScalar_absent]
    -- Equality and inequality tell what is absent apart by default, and the others are not decisive on it.
    obtain ⟨key, modifier, relation, literal⟩ := p
    cases relation with
    | equal => exact .of_not rfl
    | notEqual => exact .of_not rfl
    | order order => exact ⟨nofun, fun decisive => nomatch decisive.1⟩
    | includes => exact ⟨nofun, fun decisive => absurd rfl decisive.2⟩
    | excludes => exact ⟨nofun, fun decisive => absurd rfl decisive.2⟩
  | some text =>
    -- An order looks at the number of the value, and any other relation at its text.
    by_cases asks : ∃ order, p.relation = .order order
    · obtain ⟨order, asks⟩ := asks
      have dual : p.dual.relation = .order order.dual := congrArg Relation.dual asks
      rw [acceptsScalar_order asks, acceptsScalar_order dual, number_ofPredicate, number_ofPredicate]
      refine (ordered_dual order (fun _ => FieldValue.isFinite_of_asNumber?)
        fun _ => Decimal.isFinite_of_readFinite?).mono fun decisive => ?_
      rwa [Predicate.Decisive, asks, Predicate.number?_single p single] at decisive
    · have other : ∀ order, p.relation ≠ .order order := not_exists.mp asks
      rw [acceptsScalar_of_asText? other found, acceptsScalar_of_asText? (p.dual_ne_order other) found]
      exact (acceptsText_dual p text).mono fun decisive => decisive.onText other text

/-- They are opposed on lists whose items are not counted. -/
theorem acceptsItems_dual (p : Predicate) (items : List String) (apart : p.modifier ≠ .count) :
    Opposed (p.Decisive (.list items)) ((ofPredicate p).acceptsItems mode items)
      ((ofPredicate p.dual).acceptsItems mode items) := by
  -- Whatever is decisive on the list is so on each of its items.
  have onItems (other : ∀ order, p.relation ≠ .order order) : ∀ item ∈ items,
      Opposed (p.Decisive (.list items)) ((ofPredicate p).acceptsText mode item)
        ((ofPredicate p.dual).acceptsText mode item) :=
    fun item _ => (acceptsText_dual p item).mono fun decisive => decisive.onText other item
  obtain ⟨key, modifier, relation, literal⟩ := p
  cases relation with
  | equal => exact .any_all (onItems nofun)
  | notEqual => exact .all_any (onItems nofun)
  -- Without counting an order has no number to look at, and accepts no list.
  | order order =>
    refine ⟨nofun, fun decisive => ?_⟩
    have missing := decisive.1
    rw [Predicate.number?, if_neg apart] at missing
    cases missing
  | includes => exact .any_all (onItems nofun)
  | excludes => exact .all_any (onItems nofun)

/-- They are opposed on all values. -/
theorem accepts_dual (p : Predicate) (value : FieldValue) :
    Opposed (p.Decisive value) ((ofPredicate p).accepts mode value)
      ((ofPredicate p.dual).accepts mode value) := by
  cases found : value.asList? with
  | none =>
    rw [accepts_single _ found, accepts_single _ found]
    exact acceptsScalar_dual p found
  | some items =>
    obtain rfl := FieldValue.eq_list_of_asList? found
    rw [accepts_list, accepts_list]
    -- Both ask the same modifier.
    change Opposed _ (if p.modifier = .count then _ else _) (if p.modifier = .count then _ else _)
    by_cases counts : p.modifier = .count
    · -- The length is a single value.
      rw [if_pos counts, if_pos counts]
      exact (acceptsScalar_dual p rfl).mono fun decisive => decisive.onLength counts
    · rw [if_neg counts, if_neg counts]
      exact acceptsItems_dual p items counts

end Criterion

end Decksmith
