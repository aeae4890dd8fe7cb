import Decksmith.Proofs.Binary64.Monotone

/-! Doubles of both signs. They are in the order of the numbers that they stand for, and the difference of two
of them is rounded on either side of zero. -/

namespace Decksmith.Binary64

open Float.Model Float.Model.UnpackedFloat

variable {a b exact : ℚ} {u v : UnpackedFloat}

section Opposites

/-- The opposite of the opposite is the number itself. -/
@[simp] theorem unpacked_neg_neg (u : UnpackedFloat) : u.neg.neg = u := by
  -- Only the sign changes, and it has two values.
  cases u with
  | notANumber => rfl
  | infinity sign => cases sign <;> rfl
  | zero sign => cases sign <;> rfl
  | finite sign mantissa exponent positive => cases sign <;> rfl

/-- The opposite number stands on the opposite level. -/
theorem level_neg (u : UnpackedFloat) : level u.neg = -level u := by
  -- A level is the count of steps from zero with the sign of the number.
  cases u with
  | notANumber => rfl
  | infinity sign => cases sign <;> rfl
  | zero sign => rfl
  | finite sign mantissa exponent positive =>
    cases sign with
    | negative => exact (neg_neg _).symm
    | positive => rfl

/-- The opposite of a number is one as well. -/
theorem isNaN_neg (u : UnpackedFloat) : u.neg.isNaN = u.isNaN := by
  cases u <;> rfl

/-- The opposite number stands for the opposite of what a number stands for. -/
theorem value_neg (u : UnpackedFloat) : value u.neg = -value u := by
  cases u with
  | notANumber => exact neg_zero.symm
  | infinity sign => exact neg_zero.symm
  | zero sign => exact neg_zero.symm
  -- Only the sign of the integer in front of the power of two changes.
  | finite sign mantissa exponent positive =>
    cases sign with
    | negative =>
      show ((mantissa : Int) : ℚ) * 2 ^ exponent = -(((-(mantissa : Int) : Int) : ℚ) * 2 ^ exponent)
      push_cast
      ring
    | positive =>
      show ((-(mantissa : Int) : Int) : ℚ) * 2 ^ exponent = -(((mantissa : Int) : ℚ) * 2 ^ exponent)
      push_cast
      ring

/-- Packing keeps opposites apart by their signs alone. -/
theorem unpack_pack_neg (u : UnpackedFloat) :
    (Float.Model.pack u.neg).unpack = (Float.Model.pack u).unpack.neg := by
  -- The fields of a double but the sign are unpacked in the same way on both sides.
  have components : ∀ (sign : Sign) (stored : BitVec 11) (rest : BitVec 52),
      UnpackedFloat.unpack Format.binary64 (packComponents Format.binary64 (-sign) stored rest) =
        (UnpackedFloat.unpack Format.binary64 (packComponents Format.binary64 sign stored rest)).neg := by
    intro sign stored rest
    simp only [UnpackedFloat.unpack, unpackExponent_packComponents, unpackMantissa_packComponents,
      unpackSign_packComponents, Sign.ofBitVec_toBitVec]
    -- The exponent field tells zeros and subnormals, infinities and ordinary numbers apart, whatever the sign
    -- is.
    split
    · split <;> rfl
    · split
      · split <;> rfl
      · rfl
  -- What is packed is one of these three forms, and the sign does not decide which.
  cases u with
  | notANumber => rfl
  | infinity sign => exact components sign _ _
  | zero sign => exact components sign _ _
  | finite sign mantissa exponent positive =>
    unfold Float.Model.pack Float.Model.unpack
    simp only [UnpackedFloat.neg, UnpackedFloat.pack]
    split
    · exact components sign _ _
    · split
      · exact components sign _ _
      · exact components sign _ _

/-- Rounding with residual bits treats both signs alike. -/
theorem roundWithAccuracy_neg (sign : Sign) (mantissa : Nat) (exponent : Int) (accuracy : Accuracy) :
    roundWithAccuracy Format.binary64 (-sign) mantissa exponent accuracy =
      (roundWithAccuracy Format.binary64 sign mantissa exponent accuracy).neg := by
  -- The sign is only passed on, to a zero or to the rounded mantissa.
  unfold roundWithAccuracy
  dsimp only
  split <;> rfl

/-- So does rounding without them. -/
theorem round_negative (mantissa : Nat) (exponent : Int) :
    UnpackedFloat.round Format.binary64 .negative mantissa exponent =
      (UnpackedFloat.round Format.binary64 .positive mantissa exponent).neg :=
  roundWithAccuracy_neg .positive _ _ _

end Opposites

section Order

/-- The opposite of a number that a double can store can be stored as well. -/
theorem Storable.neg (storable : Storable u) : Storable u.neg := by
  cases storable with
  | infinity sign => exact .infinity _
  | zero sign => exact .zero _
  | finite canonical bounded => exact .finite canonical bounded

/-- What can be stored is finite or an infinity. -/
theorem Storable.finite_or (storable : Storable u) :
    u.isFinite = true ∨ ∃ sign, u = .infinity sign := by
  cases storable with
  | infinity sign => exact .inr ⟨sign, rfl⟩
  | zero sign => exact .inl rfl
  | finite _ _ => exact .inl rfl

/-- What can be stored is kept by packing. -/
theorem Storable.unpack_pack (storable : Storable u) : (Float.Model.pack u).unpack = u := by
  cases storable with
  | infinity sign => exact unpack_pack_infinity sign
  | zero sign => exact unpack_pack_zero sign
  | finite canonical bounded => exact Binary64.unpack_pack _ canonical bounded

/-- Of a finite number, the number itself or its opposite is not negative. -/
theorem Storable.held_or (storable : Storable u) (finite : u.isFinite = true) :
    (∃ held, Holds held u) ∨ ∃ held > 0, Holds held u.neg := by
  -- Held numbers are not negative, so a negative one is held through its opposite.
  cases storable with
  | infinity sign => cases finite
  | zero sign => exact .inl ⟨0, .zero sign rfl⟩
  | @finite sign mantissa exponent positive canonical bounded =>
    cases sign with
    | positive => exact .inl ⟨_, .finite canonical rfl⟩
    | negative => exact .inr ⟨_, by positivity, .finite canonical rfl⟩

/-- The number whose opposite is held. -/
theorem Holds.value_eq_neg (holds : Holds a u.neg) : value u = -a := by
  -- The number is the opposite of what is held.
  rw [← unpacked_neg_neg u, value_neg, holds.value_eq]

/-- Zero is held as a zero. -/
theorem Holds.eq_zero (holds : Holds 0 u) : ∃ sign, u = .zero sign := by
  cases holds with
  | zero sign _ => exact ⟨sign, rfl⟩
  | @finite mantissa exponent positive canonical same =>
    -- A canonical mantissa is positive, so it cannot stand for zero.
    have : (0 : ℚ) < mantissa * 2 ^ exponent := by positivity
    exact absurd same this.ne

/-- Held numbers are compared as the levels that they stand on. -/
theorem Holds.compare_level (left : Holds a u) (right : Holds b v) (first : Storable u)
    (second : Storable v) : compare (level u) (level v) = compare a b := by
  -- Comparing unpacked numbers is comparing levels, and it is comparing what they hold.
  rw [← Option.some_inj, ← compare_eq_compare_level first second, left.compare_eq right]

/-- What is held is not below zero. -/
theorem Holds.level_nonneg (holds : Holds a u) (storable : Storable u) : 0 ≤ level u :=
  -- It is no smaller than zero, which stands on level zero.
  (Holds.zero .positive rfl : Holds 0 (.zero .positive)).level_le holds (.zero _) storable holds.nonneg

/-- A positive number stands above zero. -/
theorem Holds.level_pos (holds : Holds a u) (storable : Storable u) (positive : 0 < a) :
    0 < level u := by
  have zero : Holds 0 (.zero .positive) := .zero .positive rfl
  have compared := zero.compare_level holds (.zero _) storable
  rwa [compare_lt_iff_lt.mpr positive, compare_lt_iff_lt] at compared

/-- A finite number on a higher level is larger. -/
theorem Storable.value_lt (left : Storable u) (right : Storable v) (finite : u.isFinite = true)
    (also : v.isFinite = true) (less : level u < level v) : value u < value v := by
  -- Each number or its opposite is held, which leaves four cases by sign.
  rcases left.held_or finite with ⟨a, holds⟩ | ⟨a, positive, holds⟩
  · rcases right.held_or also with ⟨b, holds'⟩ | ⟨b, positive', holds'⟩
    · have compared := holds.compare_level holds' left right
      rw [compare_lt_iff_lt.mpr less] at compared
      rw [holds.value_eq, holds'.value_eq]
      exact compare_lt_iff_lt.mp compared.symm
    · -- A number that is not negative does not stand below a negative one.
      have above := holds.level_nonneg left
      have below := holds'.level_pos right.neg positive'
      rw [level_neg] at below
      omega
  · rcases right.held_or also with ⟨b, holds'⟩ | ⟨b, positive', holds'⟩
    -- A negative number lies below every number that is not negative.
    · have least := holds'.nonneg
      rw [holds.value_eq_neg, holds'.value_eq]
      linarith
    · -- Of two negative numbers, the one further away from zero is the smaller one.
      have compared := holds'.compare_level holds right.neg left.neg
      rw [level_neg, level_neg, compare_lt_iff_lt.mpr (by omega)] at compared
      rw [holds.value_eq_neg, holds'.value_eq_neg]
      exact neg_lt_neg (compare_lt_iff_lt.mp compared.symm)

/-- Held numbers on the same level are the same, but for the sign of a zero. -/
theorem Holds.eq_of_level_eq (left : Holds a u) (right : Holds b v) (first : Storable u)
    (second : Storable v) (same : level u = level v) :
    u = v ∨ ∃ sign other, u = .zero sign ∧ v = .zero other := by
  have compared := left.compare_level right first second
  rw [compare_eq_iff_eq.mpr same] at compared
  obtain rfl : a = b := compare_eq_iff_eq.mp compared.symm
  -- Zero has two forms, and a positive number has one.
  rcases left.nonneg.eq_or_lt with rfl | positive
  · obtain ⟨sign, rfl⟩ := left.eq_zero
    obtain ⟨other, rfl⟩ := right.eq_zero
    exact .inr ⟨sign, other, rfl, rfl⟩
  · exact .inl (left.unique right positive)

/-- Finite numbers on the same level are the same, but for the sign of a zero. -/
theorem Storable.eq_of_level_eq (left : Storable u) (right : Storable v) (finite : u.isFinite = true)
    (also : v.isFinite = true) (same : level u = level v) :
    u = v ∨ ∃ sign other, u = .zero sign ∧ v = .zero other := by
  -- As for the order, the cases are those of the two signs.
  rcases left.held_or finite with ⟨a, holds⟩ | ⟨a, positive, holds⟩
  · rcases right.held_or also with ⟨b, holds'⟩ | ⟨b, positive', holds'⟩
    · exact holds.eq_of_level_eq holds' left right same
    -- A negative number stands below zero and the other one does not.
    · have above := holds.level_nonneg left
      have below := holds'.level_pos right.neg positive'
      rw [level_neg] at below
      omega
  · have below := holds.level_pos left.neg positive
    rw [level_neg] at below
    rcases right.held_or also with ⟨b, holds'⟩ | ⟨b, positive', holds'⟩
    -- Nor does it here, with the sides exchanged.
    · have above := holds'.level_nonneg right
      omega
    · -- Neither of the opposites is zero, so they are the same.
      rcases holds.eq_of_level_eq holds' left.neg right.neg (by rw [level_neg, level_neg, same]) with
        equal | ⟨sign, other, zero, -⟩
      · exact .inl (by rw [← unpacked_neg_neg u, equal, unpacked_neg_neg])
      · have : level u.neg = 0 := by rw [zero]; rfl
        rw [level_neg] at this
        omega

/-- The infinities stand above and below everything else. -/
theorem Storable.neg_le_level (storable : Storable u) : -(2047 * 2 ^ 52) ≤ level u := by
  -- The opposite stands no higher than infinity.
  have := storable.neg.level_le
  rw [level_neg] at this
  omega

/-- Only infinity stands as high as infinity. -/
theorem Storable.eq_infinity (storable : Storable u) (top : 2047 * 2 ^ 52 ≤ level u) :
    u = .infinity .positive := by
  cases storable with
  | infinity sign =>
    cases sign with
    | negative => exact absurd top (by decide)
    | positive => rfl
  | zero sign => exact absurd top (show ¬ (2047 * 2 ^ 52 : Int) ≤ 0 by decide)
  | @finite sign mantissa exponent positive canonical bounded =>
    -- A finite number has fewer steps than infinity.
    have := canonical.steps_bounds positive bounded
    cases sign <;> simp only [level, Sign.apply] at top <;> omega

end Order

section Rounding

/-- What is left of larger numbers stands no lower, also if one of them is too large. -/
theorem Packed.level_mono {x y : Float.Model} (left : Packed a x.unpack) (right : Packed b y.unpack)
    (most : a ≤ b) : level x.unpack ≤ level y.unpack := by
  have first := storable_unpack left.isNaN_eq_false
  have second := storable_unpack right.isNaN_eq_false
  generalize x.unpack = u at left first
  cases left with
  | kept holds => exact right.le_level holds first most
  | overflow large =>
    -- The larger number is too large as well.
    generalize y.unpack = v at right second
    cases right with
    | kept holds => exact absurd (large.trans most) (holds.lt_of_storable second).not_ge
    | overflow _ => exact le_refl _

/-- An exact number on either side of zero is rounded to an unpacked one. -/
inductive RoundsTo (exact : ℚ) (u : UnpackedFloat) : Prop where
  | above {rounded : ℚ} (least : 0 ≤ exact) (rounds : Rounds exact rounded) (holds : Holds rounded u)
  | below {rounded : ℚ} (most : exact ≤ 0) (rounds : Rounds (-exact) rounded)
      (holds : Holds rounded u.neg)

/-- The opposite of the exact number is rounded to the opposite of the other one. -/
theorem RoundsTo.neg (rounds : RoundsTo exact u) : RoundsTo (-exact) u.neg := by
  cases rounds with
  | above least rounds holds =>
    exact .below (neg_nonpos_of_nonneg least) (by rwa [neg_neg]) (by rwa [unpacked_neg_neg])
  | below most rounds holds => exact .above (neg_nonneg_of_nonpos most) rounds holds

/-- A finite number is rounded to itself. -/
theorem Storable.roundsTo (storable : Storable u) (finite : u.isFinite = true) :
    RoundsTo (value u) u := by
  -- A number that is held is its own rounding, and for a negative one its opposite is.
  rcases storable.held_or finite with ⟨held, holds⟩ | ⟨held, positive, holds⟩
  · rw [holds.value_eq]
    exact .above holds.nonneg holds.rounds_self holds
  · rw [holds.value_eq_neg]
    exact .below (by linarith) (by rw [neg_neg]; exact holds.rounds_self) holds

/-- What an exact number is rounded to is a number. -/
theorem RoundsTo.isNaN_eq_false (rounds : RoundsTo exact u) :
    (Float.Model.pack u).unpack.isNaN = false := by
  cases rounds with
  | above least rounds holds => exact holds.pack.isNaN_eq_false
  | below most rounds holds =>
    -- On the lower side the opposite is packed, which is a number exactly when this is.
    rw [← isNaN_neg, ← unpack_pack_neg]
    exact holds.pack.isNaN_eq_false

/-- Rounding and packing keep the order of exact numbers on both sides of zero. -/
theorem RoundsTo.level_le (left : RoundsTo a u) (right : RoundsTo b v) (less : a < b) :
    level (Float.Model.pack u).unpack ≤ level (Float.Model.pack v).unpack := by
  have zero : Holds 0 (.zero .positive) := .zero .positive rfl
  -- What is rounded on the upper side stands no lower than zero, and the opposite holds on the lower side.
  have high {rounded : ℚ} {w : UnpackedFloat} (holds : Holds rounded w) :
      0 ≤ level (Float.Model.pack w).unpack :=
    holds.pack.le_level zero (.zero _) holds.nonneg
  cases left with
  | above least rounds holds =>
    cases right with
    | above _ rounds' holds' =>
      exact holds.pack.level_mono holds'.pack (rounds.mono rounds' holds holds' less)
    | below most _ _ => exact absurd (least.trans_lt less) most.not_gt
  | below most rounds holds =>
    have low := high holds
    rw [unpack_pack_neg, level_neg] at low
    cases right with
    | above _ rounds' holds' =>
      have := high holds'
      omega
    | below _ rounds' holds' =>
      -- Both opposites are in the opposite order.
      have mono := rounds'.mono rounds holds' holds (neg_lt_neg less)
      have opposite := holds'.pack.level_mono holds.pack mono
      rw [unpack_pack_neg, unpack_pack_neg, level_neg, level_neg] at opposite
      omega

end Rounding

section Operations

/-- An integer times a power of two is rounded. -/
theorem roundsTo_normalize (count : Int) (exponent : Int) :
    RoundsTo (count * 2 ^ exponent) (UnpackedFloat.normalize Format.binary64 count exponent .positive) := by
  unfold UnpackedFloat.normalize
  rcases lt_trichotomy count 0 with negative | rfl | positive
  · -- Below zero the opposite is rounded.
    obtain ⟨distance, below⟩ : ∃ distance : Nat, count = -distance :=
      ⟨(-count).toNat, by omega⟩
    subst below
    obtain ⟨rounded, rounds, holds⟩ := holds_round (show 0 < distance by omega) exponent
    rw [Int.compare_eq_lt.mpr negative, neg_neg, Int.toNat_natCast]
    refine @RoundsTo.below _ _ rounded ?_ ?_ ?_
    · push_cast
      have : (0 : ℚ) ≤ distance * 2 ^ exponent := by positivity
      linarith
    · push_cast
      rwa [neg_mul, neg_neg]
    · dsimp only
      rwa [round_negative, unpacked_neg_neg]
  -- Zero is kept as it is.
  · have zero : Holds 0 (.zero .positive) := .zero .positive rfl
    rw [Int.cast_zero, zero_mul]
    exact .above le_rfl zero.rounds_self zero
  -- Above zero the number itself is rounded.
  · obtain ⟨whole, above⟩ := Int.eq_ofNat_of_zero_le positive.le
    subst above
    obtain ⟨rounded, rounds, holds⟩ := holds_round (show 0 < whole by omega) exponent
    rw [Int.compare_eq_gt.mpr positive]
    exact .above (by positivity) (by rwa [Int.cast_natCast]) holds

/-- The difference of two mantissas that are widened to one exponent is rounded. -/
theorem sub_finite {mantissa wider : Nat} {exponent further : Int} (positive : 0 < mantissa)
    (some : 0 < wider) (sign other : Sign) :
    RoundsTo (value (.finite sign mantissa exponent positive) - value (.finite other wider further some))
      (UnpackedFloat.sub Format.binary64 (.finite sign mantissa exponent positive)
        (.finite other wider further some)) := by
  -- The smaller exponent and the two shifts that reach it get names, so that the arithmetic stays linear in
  -- them.
  obtain ⟨lower, least⟩ : ∃ lower, min exponent further = lower := ⟨_, rfl⟩
  obtain ⟨front, ahead⟩ : ∃ front : Nat, (exponent - lower).toNat = front := ⟨_, rfl⟩
  obtain ⟨back, behind⟩ : ∃ back : Nat, (further - lower).toNat = back := ⟨_, rfl⟩
  -- A widened mantissa with the smaller exponent is the same number.
  have widened : ∀ (sign : Sign) (mantissa places : Nat) {exponent : Int}, exponent = lower + places →
      (sign.apply mantissa : ℚ) * 2 ^ exponent = sign.apply (mantissa * 2 ^ places : Nat) * 2 ^ lower := by
    rintro sign mantissa places _ rfl
    rw [zpow_add₀ two_ne_zero, zpow_natCast]
    cases sign <;> simp only [Sign.apply] <;> push_cast <;> ring
  -- Both numbers become multiples of one power of two, and the multiples are subtracted as integers.
  have difference : value (.finite sign mantissa exponent positive) -
      value (.finite other wider further some) =
      (sign.apply (mantissa * 2 ^ front : Nat) - other.apply (wider * 2 ^ back : Nat) : Int) *
        2 ^ lower := by
    rw [value, value, widened sign mantissa front (by omega), widened other wider back (by omega)]
    push_cast
    ring
  rw [difference]
  simp only [UnpackedFloat.sub, decreaseExponent, Nat.shiftLeft_eq, least, ahead, behind]
  exact roundsTo_normalize _ lower

/-- A difference of finite numbers is rounded. -/
theorem Storable.sub (left : Storable u) (right : Storable v) (finite : u.isFinite = true)
    (also : v.isFinite = true) : RoundsTo (value u - value v) (UnpackedFloat.sub Format.binary64 u v) := by
  cases left with
  | infinity sign => cases finite
  | zero sign =>
    cases right with
    | infinity other => cases also
    | zero other =>
      -- Two zeros leave a zero, whose sign depends on theirs.
      have zero : value (.zero sign) - value (.zero other) = 0 := sub_self 0
      have difference : UnpackedFloat.sub Format.binary64 (.zero sign) (.zero other) = .zero sign ∨
          UnpackedFloat.sub Format.binary64 (.zero sign) (.zero other) = .zero .positive := by
        rw [UnpackedFloat.sub]
        exact ite_eq_or_eq _ _ _
      rw [zero]
      rcases difference with same | same <;> rw [same] <;> exact (Storable.zero _).roundsTo rfl
    | @finite other wider further some narrow within =>
      -- Nothing is left but the opposite of what is taken away.
      have difference : value (.zero sign) - value (.finite other wider further some) =
          -value (.finite other wider further some) := zero_sub _
      rw [difference]
      exact ((Storable.finite narrow within).roundsTo rfl).neg
  | @finite sign mantissa exponent positive canonical bounded =>
    cases right with
    | infinity other => cases also
    | zero other =>
      -- Taking a zero away changes nothing.
      have difference : value (.finite sign mantissa exponent positive) - value (.zero other) =
          value (.finite sign mantissa exponent positive) := sub_zero _
      rw [difference]
      exact (Storable.finite canonical bounded).roundsTo rfl
    | finite narrow within => exact sub_finite _ _ _ _

end Operations

section Distance

variable {x y : Float}

/-- A number without its sign is held if it is held or its opposite is. -/
theorem Holds.abs (holds : Holds a u ∨ Holds a u.neg) : Holds a u.abs := by
  rcases holds with holds | holds
  -- Without its sign a number that is held is the same up to the sign of a zero.
  · cases holds with
    | zero sign none => exact .zero _ none
    | finite canonical same => exact .finite canonical same
  -- The opposite of a number is held only if the number is a zero or negative.
  · cases u with
    | notANumber => cases holds
    | infinity sign => cases holds
    | zero sign =>
      cases holds with
      | zero _ none => exact .zero _ none
    | finite sign mantissa exponent positive =>
      cases sign with
      | negative =>
        cases holds with
        | finite canonical same => exact .finite canonical same
      | positive => cases holds

/-- The distance of two numbers is exact if it is a whole number of at most 53 bits. -/
theorem holds_distance {count : Nat} (left : Holds a x.toModel.unpack)
    (right : Holds b y.toModel.unpack) (whole : |a - b| = count) (small : count < 2 ^ 53) :
    Holds count (x - y).abs.toModel.unpack := by
  have first : Storable x.toModel.unpack := storable_unpack (Packed.kept left).isNaN_eq_false
  have second : Storable y.toModel.unpack := storable_unpack (Packed.kept right).isNaN_eq_false
  -- The count is far below infinity, so packing does not change it.
  have bounded : (count : ℚ) < 2 ^ 1024 := by
    have : (count : ℚ) < 2 ^ 53 := by exact_mod_cast small
    exact this.trans_le (pow_le_pow_right₀ one_le_two (by norm_num))
  have difference := first.sub second left.isFinite right.isFinite
  rw [left.value_eq, right.value_eq] at difference
  -- On either side of zero the distance is kept, and only the sign tells the sides apart.
  have sides : Holds count (x - y).toModel.unpack ∨ Holds count (x - y).toModel.unpack.neg := by
    cases difference with
    | above least rounds holds =>
      rw [abs_of_nonneg least] at whole
      rw [whole] at rounds
      obtain rfl := rounds.eq_whole small
      exact .inl (holds.pack.of_lt bounded)
    | below most rounds holds =>
      rw [abs_of_nonpos most] at whole
      rw [whole] at rounds
      obtain rfl := rounds.eq_whole small
      have kept := holds.pack.of_lt bounded
      rw [unpack_pack_neg] at kept
      exact .inr kept
  -- The sign is taken off the packed difference, and packing the rest once more keeps it.
  have distance : (x - y).abs.toModel.unpack =
      (Float.Model.pack (x - y).toModel.unpack.abs).unpack := rfl
  rw [distance]
  exact (Holds.abs sides).pack.of_lt bounded

end Distance

end Decksmith.Binary64
