import Decksmith.Proofs.Binary64.Conversion
import Decksmith.Proofs.Random.Draws
import Decksmith.Slot.Selection

/-! How many records a slot asks for: which quantities cannot be drawn and why, and between which numbers the
others are drawn, however large their bounds are. -/

namespace Decksmith

namespace Quantity

open Binary64

/-- Why no number can be drawn for a quantity. -/
inductive Unresolvable (deckSize : Option Nat) : Quantity → SelectionError → Prop where
  /-- The bounds stand in the wrong order. -/
  | inverted {min max : Nat} (inverted : max < min) :
      Unresolvable deckSize (.fixed min max) (.invalidQuantity (Float.ofNat min) (Float.ofNat max))
  /-- The percentages are not the bounds of a range. -/
  | rangeless {min max : Float}
      (rangeless : min.isFinite = false ∨ max.isFinite = false ∨ min < 0.0 ∨ min > max) :
      Unresolvable deckSize (.percent min max) (.invalidQuantity min max)
  /-- There is no size that the percentages could be taken of. -/
  | sizeless {min max : Float} (first : min.isFinite = true) (last : max.isFinite = true)
      (nonnegative : ¬ min < 0.0) (ordered : ¬ min > max) (unknown : deckSize = none) :
      Unresolvable deckSize (.percent min max) .missingDeckSize

/-- The numbers that a quantity stands for. -/
inductive Allows (deckSize : Option Nat) : Quantity → Nat → Prop where
  /-- Any number between two bounds. -/
  | fixed {min max count : Nat} (least : min ≤ count) (most : count ≤ max) :
      Allows deckSize (.fixed min max) count
  /-- The whole part of the lower percentage, and a draw on top of it that stays within the range. Neither
  the width of the range nor the sum exceeds a word. -/
  | percent {min max : Float} {size low high draw : Nat} (known : deckSize = some size)
      (lower : low = saturatedFloor (min * Float.ofNat size / 100.0))
      (upper : high = saturatedFloor (max * Float.ofNat size / 100.0))
      (within : draw ≤ high - low) (most : low + draw ≤ Max.max low high)
      (width : high - low < 2 ^ 64) (sum : low + draw < 2 ^ 64) :
      Allows deckSize (.percent min max) (low + draw)

/-- Two percentages are the bounds of a range unless one of four conditions turns them away. -/
theorem isRange_eq_true_iff (min max : Float) :
    isRange min max = true ↔
      min.isFinite = true ∧ max.isFinite = true ∧ ¬ min < 0.0 ∧ ¬ min > max := by
  simp [isRange, and_assoc]

/-- The conditions that turn two percentages away. -/
theorem isRange_eq_false_iff (min max : Float) :
    isRange min max = false ↔
      min.isFinite = false ∨ max.isFinite = false ∨ min < 0.0 ∨ min > max := by
  -- The condition fails where one of its four parts does.
  rw [← Bool.not_eq_true, isRange_eq_true_iff]
  simp only [not_and_or, not_not, Bool.not_eq_true]

/-- A percentage of a size is the whole part of the product over a hundred, up to the largest word. -/
theorem wholePercent_eq (percentage : Float) (size : Nat) :
    wholePercent percentage size = saturatedFloor (percentage * Float.ofNat size / 100.0) :=
  toNat_toUInt64_eq _

variable {deckSize : Option Nat} {quantity : Quantity} {fault : SelectionError}

/-- A quantity that is turned away draws nothing. -/
theorem Unresolvable.resolve (reason : Unresolvable deckSize quantity fault) (source : Random.Source) :
    quantity.resolve deckSize source = (.error fault, source) := by
  -- Each reason is one of the tests that come before the draw.
  cases reason with
  | inverted inverted => exact if_pos inverted
  | @rangeless min max rangeless =>
    have refused := (isRange_eq_false_iff min max).mpr rangeless
    simp [Quantity.resolve, refused]
  | @sizeless min max first last nonnegative ordered unknown =>
    have range := (isRange_eq_true_iff min max).mpr ⟨first, last, nonnegative, ordered⟩
    simp [Quantity.resolve, range, unknown]

/-- A number from the range between two percentages of a size is one that they stand for. -/
theorem allows_percent (min max : Float) (size : Nat) (source : Random.Source) :
    Allows (some size) (.percent min max) (wholePercent min size +
      (source.between 0 (wholePercent max size - wholePercent min size)).1) := by
  -- The width is cut off at zero, so the draw is between numbers in order.
  have drawn := source.between_le (Nat.zero_le (wholePercent max size - wholePercent min size))
  have low := wholePercent_eq min size
  have high := wholePercent_eq max size
  have lower := saturatedFloor_lt (min * Float.ofNat size / 100.0)
  have upper := saturatedFloor_lt (max * Float.ofNat size / 100.0)
  -- Both ends of the range are words, so what lies between them and what is drawn are words as well.
  exact .percent rfl low high drawn (by omega) (by omega) (by omega)

/-- What is drawn for a quantity that nothing turns away is one of the numbers that it stands for. -/
theorem resolve_allows (resolvable : ∀ fault, ¬ Unresolvable deckSize quantity fault)
    (source : Random.Source) :
    ∃ count rest, quantity.resolve deckSize source = (.ok count, rest) ∧
      Allows deckSize quantity count := by
  -- A test that fails would be a reason, so all of them succeed and a number is drawn.
  cases quantity with
  | fixed min max =>
    have ordered : min ≤ max := Nat.not_lt.mp fun inverted => resolvable _ (.inverted inverted)
    exact ⟨_, _, if_neg (Nat.not_lt.mpr ordered),
      .fixed (source.le_between min max) (source.between_le ordered)⟩
  | percent min max =>
    cases range : isRange min max with
    | false => exact absurd (.rangeless ((isRange_eq_false_iff min max).mp range)) (resolvable _)
    | true =>
      obtain ⟨first, last, nonnegative, ordered⟩ := (isRange_eq_true_iff min max).mp range
      cases deckSize with
      | none => exact absurd (.sizeless first last nonnegative ordered rfl) (resolvable _)
      | some size =>
        refine ⟨_, (source.between 0 (wholePercent max size - wholePercent min size)).2, ?_,
          allows_percent min max size source⟩
        simp [resolve, range]

/-- Drawing a number for a quantity. It fails for exactly the reasons that there are to turn a quantity away,
and then neither the draw nor a selection by a slot with this quantity moves the source. Without such a reason
a number is drawn that the quantity stands for. -/
theorem resolve_bounded (quantity : Quantity) (deckSize : Option Nat) (source : Random.Source) :
    (∀ fault rest, quantity.resolve deckSize source = (.error fault, rest) ↔
      Unresolvable deckSize quantity fault ∧ rest = source) ∧
    (∀ fault, Unresolvable deckSize quantity fault → ∀ slot : Slot, slot.quantity = quantity →
      ∀ mode records, slot.select mode records deckSize source = (.error fault, source)) ∧
    ((∀ fault, ¬ Unresolvable deckSize quantity fault) →
      ∃ count rest, quantity.resolve deckSize source = (.ok count, rest) ∧
        Allows deckSize quantity count) := by
  refine ⟨fun fault rest => ⟨fun failed => ?_, ?_⟩, ?_, fun resolvable => resolve_allows resolvable source⟩
  · -- A quantity without a reason to fail would have given a number.
    by_cases resolvable : ∀ fault, ¬ Unresolvable deckSize quantity fault
    · obtain ⟨_, _, drawn, -⟩ := resolve_allows resolvable source
      rw [drawn] at failed
      cases failed
    · obtain ⟨actual, reason⟩ := not_forall_not.mp resolvable
      rw [reason.resolve source] at failed
      cases failed
      exact ⟨reason, rfl⟩
  -- A reason to fail is met by the test that looks for it.
  · rintro ⟨reason, rfl⟩
    exact reason.resolve rest
  -- A selection resolves its quantity before it does anything else.
  · intro fault reason slot asked mode records
    rw [Slot.select, asked, reason.resolve source]

/-- The largest finite double. -/
def greatest : Float :=
  .ofBits 0x7FEFFFFFFFFFFFFF

/-- A range with its bounds exchanged is refused and leaves the source to the next slot, and percentages of
which the product with a size is infinite ask for the largest number there is. -/
theorem resolve_bounded_extremes :
    Unresolvable (some 60) (.percent 60.0 40.0) (.invalidQuantity 60.0 40.0) ∧
      (∀ records, Slot.select { quantity := .percent 60.0 40.0 } .strict records (some 60) (.ofSeed 7) =
        (.error (.invalidQuantity 60.0 40.0), .ofSeed 7)) ∧
      (∀ fault, ¬ Unresolvable (some 60) (.percent greatest greatest) fault) ∧
      ∃ rest, resolve (.percent greatest greatest) (some 60) (.ofSeed 7) = (.ok (2 ^ 64 - 1), rest) := by
  -- The lower percentage is above the higher one.
  have exchanged : Unresolvable (some 60) (.percent 60.0 40.0) (.invalidQuantity 60.0 40.0) :=
    .rangeless (.inr (.inr (.inr (by decide +kernel))))
  -- The greatest percentages are finite and in order, so none of the reasons applies.
  have range : isRange greatest greatest = true := by decide +kernel
  have resolvable : ∀ fault, ¬ Unresolvable (some 60) (.percent greatest greatest) fault := by
    rintro _ (_ | rangeless | ⟨-, -, -, -, unknown⟩)
    · rw [← isRange_eq_false_iff, range] at rangeless
      cases rangeless
    · cases unknown
  refine ⟨exchanged, fun records => ?_, resolvable, ?_⟩
  · exact (resolve_bounded (.percent 60.0 40.0) (some 60) (.ofSeed 7)).2.1 _ exchanged _ rfl .strict records
  · obtain ⟨count, rest, drawn, allowed⟩ :=
      (resolve_bounded (.percent greatest greatest) (some 60) (.ofSeed 7)).2.2 resolvable
    -- The product is infinite, and so both bounds are the largest word.
    have infinite : saturatedFloor (greatest * Float.ofNat 60 / 100.0) = 2 ^ 64 - 1 :=
      if_pos (by decide +kernel)
    cases allowed with
    | percent known lower upper within =>
      cases known
      rw [infinite] at lower upper
      subst lower upper
      obtain rfl := Nat.eq_zero_of_le_zero within
      exact ⟨rest, drawn⟩

end Quantity

end Decksmith
