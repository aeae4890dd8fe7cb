import Decksmith.Proofs.Binary64.Monotone

/-! Sums of positive doubles: they grow with every summand, and a sum that stays finite stays so without
one of its summands. -/

namespace Decksmith.Binary64

open Float.Model Float.Model.UnpackedFloat

variable {a b c : ℚ} {x y z : Float}

/-- Packing does not make anything finite. -/
theorem isFinite_of_pack {u : UnpackedFloat} (finite : (Float.Model.pack u).unpack.isFinite = true) :
    u.isFinite = true := by
  -- Packing may turn a finite number into an infinity, but infinities stay what they are.
  cases u with
  | notANumber => exact finite
  | infinity sign =>
    rwa [unpack_pack_infinity] at finite
  | zero sign => rfl
  | finite sign mantissa exponent positive => rfl

/-- A sum is finite only if its summands are. -/
theorem isFinite_of_add {u v : UnpackedFloat}
    (finite : (UnpackedFloat.add Format.binary64 u v).isFinite = true) :
    u.isFinite = true ∧ v.isFinite = true := by
  -- Adding to an infinity gives an infinity, or what is no number.
  cases u with
  | notANumber => cases finite
  | infinity sign =>
    cases v with
    | notANumber => cases finite
    | infinity other => cases sign <;> cases other <;> cases finite
    | zero other => cases finite
    | finite other wider further some => cases finite
  | zero sign =>
    cases v with
    | notANumber => cases finite
    | infinity other => cases finite
    | zero other => exact ⟨rfl, rfl⟩
    | finite other wider further some => exact ⟨rfl, rfl⟩
  | finite sign mantissa exponent positive =>
    cases v with
    | notANumber => cases finite
    | infinity other => cases finite
    | zero other => exact ⟨rfl, rfl⟩
    | finite other wider further some => exact ⟨rfl, rfl⟩

/-- A sum of several numbers is finite only if the first of them and all others are. -/
theorem isFinite_of_foldl_add {summands : List Float}
    (finite : (summands.foldl (· + ·) x).isFinite = true) :
    x.isFinite = true ∧ ∀ summand ∈ summands, summand.isFinite = true := by
  -- The last sum is finite, so each one before it was, back to the first summand.
  induction summands generalizing x with
  | nil => exact ⟨finite, nofun⟩
  | cons first others ih =>
    obtain ⟨sum, rest⟩ := ih finite
    obtain ⟨left, right⟩ := isFinite_of_add (isFinite_of_pack sum)
    exact ⟨left, List.forall_mem_cons.mpr ⟨right, rest⟩⟩

/-- Adding a positive number gives a sum of the number that the addends round to, which is no smaller
than either of them. -/
theorem Holds.add_positive (left : Holds a x.toModel.unpack) (right : Holds c z.toModel.unpack)
    (positive : 0 < c) (finite : (x + z).isFinite = true) :
    ∃ sum, Rounds (a + c) sum ∧ a ≤ sum ∧ 0 < sum ∧ Holds sum (x + z).toModel.unpack := by
  -- Both addends are held numbers below the exact sum, so rounding does not pass them.
  obtain ⟨sum, rounds, packed⟩ := packed_add left right
  have least := left.nonneg
  refine ⟨sum, rounds, rounds.held_le left (by linarith), ?_, packed.of_finite finite⟩
  exact positive.trans_le (rounds.held_le right (by linarith))

/-- Adding positive numbers makes a number larger. -/
theorem Holds.foldl_add {summands : List Float} (positive : ∀ summand ∈ summands, 0.0 < summand)
    (start : Holds a x.toModel.unpack) (finite : (summands.foldl (· + ·) x).isFinite = true) :
    ∃ sum, Holds sum (summands.foldl (· + ·) x).toModel.unpack ∧ a ≤ sum ∧
      (summands ≠ [] → 0 < sum) := by
  -- The induction goes along the summands, with the sum so far as the new start.
  induction summands generalizing a x with
  | nil => exact ⟨a, start, le_refl a, fun some => absurd rfl some⟩
  | cons first others ih =>
    obtain ⟨here, rest⟩ := List.forall_mem_cons.mp positive
    -- Every partial sum is finite, because the last one is.
    obtain ⟨whole, -⟩ := isFinite_of_foldl_add (x := x + first) finite
    obtain ⟨-, last⟩ := isFinite_of_add (isFinite_of_pack whole)
    obtain ⟨held, above, holds⟩ := holds_of_positive here last
    -- The sum so far is at least the start and becomes positive with its first summand.
    obtain ⟨next, -, more, some, begun⟩ := start.add_positive holds above whole
    obtain ⟨sum, total, least, -⟩ := ih rest begun finite
    exact ⟨sum, total, more.trans least, fun _ => some.trans_le least⟩

/-- One of two numbers is no larger, and if it is as large it is stored in the same way. -/
inductive Precedes (x y : Float) : Prop where
  | same (stored : x.toModel.unpack = y.toModel.unpack)
  | less {a b : ℚ} (left : Holds a x.toModel.unpack) (right : Holds b y.toModel.unpack) (less : a < b)

/-- Adding the same positive number to both of two numbers keeps their order. -/
theorem Precedes.add (precedes : Precedes x y) (positive : 0.0 < z) (finite : (y + z).isFinite = true) :
    Precedes (x + z) (y + z) := by
  -- What is stored alike stays alike, and of different numbers the exact sums differ.
  cases precedes with
  | same stored =>
    refine .same ?_
    rw [unpack_add, unpack_add, stored]
  | @less a b left right less =>
    obtain ⟨-, last⟩ := isFinite_of_add (isFinite_of_pack (show _ from finite))
    obtain ⟨c, above, holds⟩ := holds_of_positive positive last
    obtain ⟨sum, rounds, -, some, total⟩ := right.add_positive holds above finite
    -- Rounding keeps the order of the exact sums, and the smaller one does not overflow either.
    obtain ⟨smaller, rounds', kept⟩ := left.add holds
    have ordered := rounds'.mono rounds kept total (by linarith)
    have small : sum < 2 ^ 1024 :=
      total.lt_of_storable (storable_unpack (Packed.kept total).isNaN_eq_false)
    have kept : Holds smaller (x + z).toModel.unpack := kept.pack.of_lt (ordered.trans_lt small)
    -- Rounding may bring the two sums together, and then they are stored alike.
    rcases ordered.lt_or_eq with less | rfl
    · exact .less kept total less
    · exact .same (kept.unique total some)

/-- A number precedes its sum with a positive one. -/
theorem precedes_add (start : Holds a x.toModel.unpack) (positive : 0.0 < z)
    (finite : (x + z).isFinite = true) : Precedes x (x + z) := by
  obtain ⟨-, last⟩ := isFinite_of_add (isFinite_of_pack (show _ from finite))
  obtain ⟨c, above, holds⟩ := holds_of_positive positive last
  obtain ⟨sum, -, more, some, total⟩ := start.add_positive holds above finite
  -- A small summand can be lost in rounding, which leaves the number as it is stored.
  rcases more.lt_or_eq with less | rfl
  · exact .less start total less
  · exact .same (start.unique total some)

/-- What is added up from the smaller one of two numbers stays finite if it does from the other. -/
theorem Precedes.isFinite_foldl_add {summands : List Float}
    (positive : ∀ summand ∈ summands, 0.0 < summand) (precedes : Precedes x y)
    (finite : (summands.foldl (· + ·) y).isFinite = true) :
    (summands.foldl (· + ·) x).isFinite = true := by
  -- The order is kept by each summand, and at the end the smaller sum is finite with the larger one.
  induction summands generalizing x y with
  | nil =>
    show x.toModel.unpack.isFinite = true
    cases precedes with
    | same stored => exact stored ▸ finite
    | less left => exact left.isFinite
  | cons first others ih =>
    obtain ⟨here, rest⟩ := List.forall_mem_cons.mp positive
    obtain ⟨sum, -⟩ := isFinite_of_foldl_add (x := y + first) finite
    exact ih rest (precedes.add here sum) finite

/-- A sum of positive numbers that is finite stays so without one of them. -/
theorem isFinite_foldl_add_erase {front rear : List Float} (start : Holds a x.toModel.unpack)
    (positive : ∀ summand ∈ front ++ z :: rear, 0.0 < summand)
    (finite : ((front ++ z :: rear).foldl (· + ·) x).isFinite = true) :
    ((front ++ rear).foldl (· + ·) x).isFinite = true := by
  -- The sum up to the summand is a number that precedes its sum with it, and the rest is added to both.
  rw [List.foldl_append, List.foldl_cons] at finite
  rw [List.foldl_append]
  obtain ⟨before, after⟩ := List.forall_mem_append.mp positive
  obtain ⟨here, rest⟩ := List.forall_mem_cons.mp after
  obtain ⟨with_it, -⟩ := isFinite_of_foldl_add finite
  obtain ⟨without, -⟩ := isFinite_of_add (isFinite_of_pack (show _ from with_it))
  obtain ⟨sum, holds, -⟩ := start.foldl_add before without
  exact (precedes_add holds here with_it).isFinite_foldl_add rest finite

end Decksmith.Binary64
