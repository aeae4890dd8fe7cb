import Decksmith.Proofs.Binary64.Signed
import Decksmith.Proofs.Decimal.Whole
import Decksmith.Proofs.Query.Duality

/-! Counting the items of a list. Orders compare the length as a number, and equality compares its text, which
is read back; both come to comparing natural numbers. -/

namespace Decksmith

open Binary64 Decimal

variable {a b : Nat} {x y : Float} {mode : CaseMode}

/-- What an order says of two natural numbers. -/
def OrderRelation.Orders : OrderRelation → Nat → Nat → Prop
  | greater, field, literal => literal < field
  | greaterOrEqual, field, literal => literal ≤ field
  | less, field, literal => field < literal
  | lessOrEqual, field, literal => field ≤ literal

/-- Doubles that hold natural numbers stand in the order of these. -/
theorem OrderRelation.holds_iff_orders (order : OrderRelation) (left : Holds a x.toModel.unpack)
    (right : Holds b y.toModel.unpack) : order.holds x y = true ↔ order.Orders a b := by
  -- Each order of doubles is an order of what they hold, and natural numbers keep theirs as rational ones.
  cases order with
  | greater => exact decide_eq_true_iff.trans ((right.lt_iff_lt left).trans Nat.cast_lt)
  | greaterOrEqual => exact decide_eq_true_iff.trans ((right.le_iff_le left).trans Nat.cast_le)
  | less => exact decide_eq_true_iff.trans ((left.lt_iff_lt right).trans Nat.cast_lt)
  | lessOrEqual => exact decide_eq_true_iff.trans ((left.le_iff_le right).trans Nat.cast_le)

/-- The tolerance lies between zero and one. -/
theorem holds_tolerance :
    ∃ tolerance : ℚ, 0 ≤ tolerance ∧ tolerance < 1 ∧
      Holds tolerance numericTolerance.toModel.unpack := by
  -- The literal is stored as the nearest double, which is a little off a millionth.
  have stored : numericTolerance.toModel.unpack =
      .finite .positive 4611686018427388 (-62) (by decide) := rfl
  rw [stored]
  refine ⟨_, ?_, ?_, .finite ⟨by decide, by decide, .inl (by decide)⟩ rfl⟩
  · positivity
  · norm_num

/-- Two natural numbers agree only if they are the same, since others are at least one apart. -/
theorem numbersAgree_iff (left : Holds a x.toModel.unpack) (right : Holds b y.toModel.unpack)
    (small : a < 2 ^ 53) (short : b < 2 ^ 53) : numbersAgree x y = true ↔ a = b := by
  obtain ⟨tolerance, least, most, holds⟩ := holds_tolerance
  -- The distance of two natural numbers is one itself, so that subtraction makes no error.
  have apart : |(a : ℚ) - b| = ((a - b : Int).natAbs : Nat) := by
    rw [Nat.cast_natAbs]
    push_cast
    rfl
  have distance := holds_distance left right apart (by omega)
  rw [numbersAgree, decide_eq_true_iff, distance.le_iff_le holds]
  constructor
  -- A distance below one is none.
  · intro close
    have none : (a - b : Int).natAbs < 1 := by exact_mod_cast close.trans_lt most
    omega
  · rintro rfl
    simpa using least

/-- Texts that spell natural numbers are equal only if the numbers are, whether case is regarded or not. -/
theorem looselyEqual_spelled {field literal : String} (left : Spells field a) (right : Spells literal b)
    (small : a < 2 ^ 53) (short : b < 2 ^ 53) : looselyEqual field literal mode = true ↔ a = b := by
  -- Both texts are read as the numbers that they spell, and then the numbers are compared.
  obtain ⟨x, first, holds⟩ := left.readFinite? small
  obtain ⟨y, second, holds'⟩ := right.readFinite? short
  rw [looselyEqual, first, second]
  exact numbersAgree_iff holds holds' small short

namespace Criterion

/-- A predicate that counts tests the length of a list as a number. -/
theorem accepts_counting {p : Predicate} (counts : p.modifier = .count) (items : List String) :
    (ofPredicate p).accepts mode (.list items) =
      (ofPredicate p).acceptsScalar mode (.number (Float.ofNat items.length)) := by
  rw [accepts_list]
  exact if_pos counts

/-- An order compares the length with the number of the literal. -/
theorem acceptsScalar_length {p : Predicate} {order : OrderRelation} (asks : p.relation = .order order)
    (short : a < 2 ^ 53) (spells : Spells p.value b) (small : b < 2 ^ 53) :
    (ofPredicate p).acceptsScalar mode (.number (Float.ofNat a)) = true ↔ order.Orders a b := by
  have holds := holds_ofNat_exact short
  -- The length is converted exactly, and the order of doubles is that of what they hold.
  have finite : (Float.ofNat a).isFinite = true := holds.isFinite
  obtain ⟨y, read, holds'⟩ := spells.readFinite? small
  rw [acceptsScalar_order asks, number_ofPredicate, read, FieldValue.asNumber?, if_pos finite]
  exact order.holds_iff_orders holds holds'

/-- Equality compares the text of the length with the literal. -/
theorem acceptsScalar_length_equal {p : Predicate} (asks : p.relation = .equal) (length : Nat) :
    (ofPredicate p).acceptsScalar mode (.number (Float.ofNat length)) =
      looselyEqual (write (Float.ofNat length)) p.value mode := by
  simp only [acceptsScalar, acceptsText, ofPredicate, asks, FieldValue.asText?]

/-- Inequality is its negation. -/
theorem acceptsScalar_length_notEqual {p : Predicate} (asks : p.relation = .notEqual) (length : Nat) :
    (ofPredicate p).acceptsScalar mode (.number (Float.ofNat length)) =
      !looselyEqual (write (Float.ofNat length)) p.value mode := by
  simp only [acceptsScalar, acceptsText, ofPredicate, asks, FieldValue.asText?]

end Criterion

namespace QueryTree

/-- A predicate that counts the items of a list. -/
def counting (key : FieldKey) (relation : Relation) (literal : String) : Predicate :=
  ⟨key, .count, relation, literal⟩

/-- A predicate that counts compares the length of a list with the number that its literal spells, whatever
the items are and whether case is regarded or not. The mask of a list of records says the same of each. -/
theorem holds_counting {key : FieldKey} {record : Record} {items : List String} {literal : String}
    {number : Nat} (found : record.field key = .list items) (short : items.length < 2 ^ 53)
    (spells : Spells literal number) (small : number < 2 ^ 53) (mode : CaseMode) :
    (∀ order, (ofPredicate (counting key (.order order) literal)).holds mode record = true ↔
      order.Orders items.length number) ∧
    ((ofPredicate (counting key .equal literal)).holds mode record = true ↔ items.length = number) ∧
    ((ofPredicate (counting key .notEqual literal)).holds mode record = true ↔ items.length ≠ number) ∧
    ∀ relation records, (ofPredicate (counting key relation literal)).mask mode records =
      records.map ((ofPredicate (counting key relation literal)).holds mode) := by
  -- The tree tests its only predicate, which counts and so looks at the length.
  have tested : ∀ relation, (ofPredicate (counting key relation literal)).holds mode record =
      (Criterion.ofPredicate (counting key relation literal)).acceptsScalar mode
        (.number (Float.ofNat items.length)) := by
    intro relation
    rw [(evaluate_ofPredicate (counting key relation literal) mode).1 record, Criterion.acceptsRecord,
      ← Criterion.accepts_counting rfl items, ← found]
    rfl
  -- The length is written in decimal, and that text is read back as the same number.
  have equal : looselyEqual (write (Float.ofNat items.length)) literal mode = true ↔
      items.length = number := looselyEqual_spelled (spells_write short) spells short small
  refine ⟨fun order => ?_, ?_, ?_, fun relation => (evaluate_ofPredicate _ mode).2⟩
  · rw [tested]
    exact Criterion.acceptsScalar_length rfl short spells small
  · rw [tested, Criterion.acceptsScalar_length_equal rfl]
    exact equal
  · rw [tested, Criterion.acceptsScalar_length_notEqual rfl, Bool.not_eq_true', ← Bool.not_eq_true]
    exact not_congr equal

/-- Three colors are as many as a literal with a zero in front says, and no more. -/
theorem holds_counting_colors :
    Spells "03" 3 ∧
      (ofPredicate (counting .colors .equal "03")).holds .strict (painted "Bant Charm" ["G", "W", "U"]) =
        true ∧
      (ofPredicate (counting .colors (.order .greater) "03")).holds .strict
        (painted "Bant Charm" ["G", "W", "U"]) = false := by
  -- The zero in front is a digit like the others and leaves the number three.
  have spells : Spells "03" 3 := ⟨by simp, by simp, rfl⟩
  obtain ⟨orders, equal, -⟩ := @holds_counting .colors (painted "Bant Charm" ["G", "W", "U"]) _ "03" 3 rfl
    (by simp) spells (by norm_num) .strict
  refine ⟨spells, equal.mpr rfl, ?_⟩
  rw [← Bool.not_eq_true, orders]
  exact Nat.lt_irrefl 3

end QueryTree

end Decksmith
