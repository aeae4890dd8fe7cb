import Decksmith.Proofs.Binary64.Signed

/-! A product, a quotient or a difference with a fixed double keeps or reverses the order of the other operand,
also where the result is too large. -/

namespace Decksmith.Binary64

open Float.Model Float.Model.UnpackedFloat

variable {u v : UnpackedFloat}

/-- What treats both signs alike, and rounds what it makes of numbers that are not negative, rounds what it
makes of all finite numbers. -/
theorem Storable.roundsTo_of_odd {f : UnpackedFloat → UnpackedFloat} {factor : ℚ} (least : 0 ≤ factor)
    (odd : ∀ u, f u.neg = (f u).neg)
    (rounds : ∀ {a u}, Holds a u → ∃ rounded, Rounds (factor * a) rounded ∧ Holds rounded (f u))
    (storable : Storable u) (finite : u.isFinite = true) : RoundsTo (factor * value u) (f u) := by
  -- Below zero the opposite is rounded, and the function carries the sign through.
  rcases storable.held_or finite with ⟨held, holds⟩ | ⟨held, positive, holds⟩
  · obtain ⟨rounded, near, result⟩ := rounds holds
    rw [holds.value_eq]
    exact .above (mul_nonneg least holds.nonneg) near result
  · obtain ⟨rounded, near, result⟩ := rounds holds
    rw [odd] at result
    rw [holds.value_eq_neg, mul_neg]
    exact .below (neg_nonpos_of_nonneg (mul_nonneg least holds.nonneg)) (by rwa [neg_neg]) result

section Scaling

variable {mantissa : Nat} {exponent : Int} (positive : 0 < mantissa)

/-- A product turns around with its second factor. -/
theorem unpacked_mul_neg (u : UnpackedFloat) :
    UnpackedFloat.mul Format.binary64 (.finite .positive mantissa exponent positive) u.neg =
      (UnpackedFloat.mul Format.binary64 (.finite .positive mantissa exponent positive) u).neg := by
  -- Zeros and infinities take the product of the signs, and rounding treats both signs alike.
  cases u with
  | notANumber => rfl
  | infinity sign => cases sign <;> rfl
  | zero sign => cases sign <;> rfl
  | finite sign wider further some =>
    cases sign with
    | negative => exact roundWithAccuracy_neg .negative _ _ _
    | positive => exact roundWithAccuracy_neg .positive _ _ _

/-- A quotient turns around with its dividend. -/
theorem unpacked_neg_div (u : UnpackedFloat) :
    UnpackedFloat.div Format.binary64 u.neg (.finite .positive mantissa exponent positive) =
      (UnpackedFloat.div Format.binary64 u (.finite .positive mantissa exponent positive)).neg := by
  -- A quotient of finite numbers rounds the quotient of the mantissas, with the sign put on afterwards.
  cases u with
  | notANumber => rfl
  | infinity sign => cases sign <;> rfl
  | zero sign => cases sign <;> rfl
  | finite sign wider further some =>
    cases sign with
    | negative => exact roundWithAccuracy_neg .negative _ _ _
    | positive => exact roundWithAccuracy_neg .positive _ _ _

/-- It turns around with its divisor, too. -/
theorem unpacked_div_negative (u : UnpackedFloat) :
    UnpackedFloat.div Format.binary64 u (.finite .negative mantissa exponent positive) =
      (UnpackedFloat.div Format.binary64 u (.finite .positive mantissa exponent positive)).neg := by
  cases u with
  | notANumber => rfl
  | infinity sign => cases sign <;> rfl
  | zero sign => cases sign <;> rfl
  -- Rounding looks at the quotient apart from its sign, and the signs of both numbers make that sign.
  | finite sign wider further some =>
    cases sign with
    | negative => exact roundWithAccuracy_neg .negative _ _ _
    | positive => exact roundWithAccuracy_neg .positive _ _ _

end Scaling

/-- Zeros of both signs stand on the same level. -/
theorem level_pack_zero (sign : Sign) : level (Float.Model.pack (.zero sign)).unpack = 0 := by
  -- Packing keeps the zero, and a zero stands on level zero.
  rw [unpack_pack_zero]
  rfl

/-- A function of unpacked numbers that rounds what a strictly increasing function makes of the numbers that
they stand for, and that keeps infinities. -/
structure Follows (f : UnpackedFloat → UnpackedFloat) (g : ℚ → ℚ) : Prop where
  increasing : StrictMono g
  rounds : ∀ {u}, Storable u → u.isFinite = true → RoundsTo (g (value u)) (f u)
  zeros : ∀ sign other, level (Float.Model.pack (f (.zero sign))).unpack =
    level (Float.Model.pack (f (.zero other))).unpack
  infinite : ∀ sign, f (.infinity sign) = .infinity sign

/-- What such a function gives is a number. -/
theorem Follows.isNaN_eq_false {f : UnpackedFloat → UnpackedFloat} {g : ℚ → ℚ} (follows : Follows f g)
    (storable : Storable u) : (Float.Model.pack (f u)).unpack.isNaN = false := by
  -- Infinities are kept, and a finite number is rounded to one or overflows.
  cases storable with
  | infinity sign => rw [follows.infinite, unpack_pack_infinity]; rfl
  | zero sign => exact (follows.rounds (.zero sign) rfl).isNaN_eq_false
  | finite canonical bounded => exact (follows.rounds (.finite canonical bounded) rfl).isNaN_eq_false

/-- Such a function keeps the order of levels. -/
theorem Follows.level_le {f : UnpackedFloat → UnpackedFloat} {g : ℚ → ℚ} (follows : Follows f g)
    (left : Storable u) (right : Storable v) (ordered : level u ≤ level v) :
    level (Float.Model.pack (f u)).unpack ≤ level (Float.Model.pack (f v)).unpack := by
  have first := storable_unpack (follows.isNaN_eq_false left)
  have second := storable_unpack (follows.isNaN_eq_false right)
  -- Finite numbers are compared by their values, and infinities only by their signs.
  rcases left.finite_or with finite | ⟨sign, rfl⟩
  · rcases right.finite_or with also | ⟨other, rfl⟩
    · rcases ordered.lt_or_eq with less | same
      -- Larger values stay larger, and rounding and packing keep their order.
      · have increased := follows.increasing (left.value_lt right finite also less)
        exact (follows.rounds left finite).level_le (follows.rounds right also) increased
      -- On one level there is one number, or a zero of each sign.
      · rcases left.eq_of_level_eq right finite also same with rfl | ⟨sign, other, rfl, rfl⟩
        · exact le_rfl
        · exact (follows.zeros sign other).le
    · -- Nothing but an infinity stands above infinity, or as low as the negative one.
      cases other with
      | negative =>
        have lowest : 2047 * 2 ^ 52 ≤ level u.neg := by
          rw [level_neg]
          exact le_neg_of_le_neg ordered
        have same := left.neg.eq_infinity lowest
        rw [← unpacked_neg_neg u, same]
        exact le_rfl
      | positive =>
        rw [follows.infinite .positive, unpack_pack_infinity]
        exact first.level_le
  · cases sign with
    | negative =>
      rw [follows.infinite .negative, unpack_pack_infinity]
      exact second.neg_le_level
    | positive =>
      rw [right.eq_infinity ordered]

section Scaling

variable {mantissa : Nat} {exponent : Int} (positive : 0 < mantissa)
  (canonical : Canonical mantissa exponent)

include canonical

/-- Multiplying by a positive number keeps the order. -/
theorem follows_mul : Follows
    (UnpackedFloat.mul Format.binary64 (.finite .positive mantissa exponent positive))
    fun x => mantissa * 2 ^ exponent * x where
  increasing := by
    have some : (0 : ℚ) < mantissa * 2 ^ exponent := by positivity
    exact fun _ _ less => mul_lt_mul_of_pos_left less some
  -- The product of held numbers is rounded, and the sign of the second factor passes through.
  rounds := Storable.roundsTo_of_odd (by positivity) (unpacked_mul_neg positive) fun holds =>
    Holds.mul (.finite canonical rfl) holds
  -- A product with a zero is a zero, whose level does not depend on its sign.
  zeros sign other := by
    show level (Float.Model.pack (.zero (.positive * sign))).unpack =
      level (Float.Model.pack (.zero (.positive * other))).unpack
    rw [level_pack_zero, level_pack_zero]
  infinite sign := by cases sign <;> rfl

/-- Dividing by a positive number keeps the order. -/
theorem follows_div : Follows
    (fun u => UnpackedFloat.div Format.binary64 u (.finite .positive mantissa exponent positive))
    fun x => ((mantissa : ℚ) * 2 ^ exponent)⁻¹ * x where
  increasing := by
    have some : (0 : ℚ) < ((mantissa : ℚ) * 2 ^ exponent)⁻¹ := by positivity
    exact fun _ _ less => mul_lt_mul_of_pos_left less some
  -- Dividing is multiplying by the inverse, as far as the exact numbers go.
  rounds {u} storable finite := by
    have some : (0 : ℚ) < (mantissa : ℚ) * 2 ^ exponent := by positivity
    refine @Storable.roundsTo_of_odd u
      (fun u => UnpackedFloat.div Format.binary64 u (.finite .positive mantissa exponent positive)) _
      (inv_nonneg.mpr some.le) (unpacked_neg_div positive) (fun holds => ?_) storable finite
    rw [← div_eq_inv_mul]
    exact holds.div (.finite canonical rfl) some
  -- A zero divided by a positive number is a zero.
  zeros sign other := by
    show level (Float.Model.pack (.zero (sign / .positive))).unpack =
      level (Float.Model.pack (.zero (other / .positive))).unpack
    rw [level_pack_zero, level_pack_zero]
  infinite sign := by cases sign <;> rfl

end Scaling

/-- Taking away from a fixed finite number reverses the order, so the opposite of it keeps the order. -/
theorem follows_sub {whole : UnpackedFloat} (storable : Storable whole) (finite : whole.isFinite = true) :
    Follows (fun u => (UnpackedFloat.sub Format.binary64 whole u).neg) fun x => x - value whole where
  increasing _ _ less := sub_lt_sub_right less _
  -- The difference of any two finite numbers is rounded, and so is its opposite.
  rounds other also := by
    rw [← neg_sub]
    exact (storable.sub other finite also).neg
  -- The difference does not tell the zeros apart by more than the sign of a zero.
  zeros sign other := by
    cases storable with
    | infinity own => cases finite
    | zero own => cases own <;> cases sign <;> cases other <;> rfl
    | finite canonical bounded => rfl
  -- Taking an infinity away from a finite number leaves the opposite infinity.
  infinite sign := by
    cases storable with
    | infinity own => cases finite
    | zero own => cases sign <;> rfl
    | finite canonical bounded => cases sign <;> rfl

section Doubles

variable {x y z : Float}

/-- A finite positive double has a positive mantissa. -/
theorem unpack_of_positive (positive : 0.0 < z) (finite : z.isFinite = true) :
    ∃ mantissa exponent, ∃ some : 0 < mantissa, Canonical mantissa exponent ∧
      z.toModel.unpack = .finite .positive mantissa exponent some := by
  -- What a positive double holds is no zero, so it has a mantissa.
  obtain ⟨held, above, holds⟩ := holds_of_positive positive finite
  generalize z.toModel.unpack = u at holds
  cases holds with
  | zero sign none => exact absurd none above.ne'
  | @finite mantissa exponent some canonical same => exact ⟨mantissa, exponent, some, canonical, rfl⟩

/-- A finite negative double has one as well. -/
theorem unpack_of_negative (negative : z < 0.0) (finite : z.isFinite = true) :
    ∃ mantissa exponent, ∃ some : 0 < mantissa, Canonical mantissa exponent ∧
      z.toModel.unpack = .finite .negative mantissa exponent some := by
  have zero : (0.0 : Float).toModel.unpack = .zero .positive := rfl
  have finite : z.toModel.unpack.isFinite = true := finite
  rw [lt_iff, zero] at negative
  -- The strict order with zero leaves the finite negative numbers and the negative infinity alone.
  cases found : z.toModel.unpack with
  | notANumber => simp [found, UnpackedFloat.isFinite] at finite
  | infinity sign => simp [found, UnpackedFloat.isFinite] at finite
  | zero sign => simp [found, UnpackedFloat.lt, UnpackedFloat.compare] at negative
  | finite sign mantissa exponent some =>
    cases sign with
    | negative => exact ⟨mantissa, exponent, some, (unpack_canonical found).1, rfl⟩
    | positive => simp [found, UnpackedFloat.lt, UnpackedFloat.compare] at negative

section Follows

variable {f : UnpackedFloat → UnpackedFloat} {g : ℚ → ℚ} {lower upper : Float}

/-- Doubles that such a function gives are in the order of what it is given. -/
theorem Follows.le (follows : Follows f g) (ordered : x ≤ y)
    (first : lower.toModel.unpack = (Float.Model.pack (f x.toModel.unpack)).unpack)
    (second : upper.toModel.unpack = (Float.Model.pack (f y.toModel.unpack)).unpack) :
    lower ≤ upper := by
  -- Neither side is undefined, so the order of the doubles is the order of the levels.
  obtain ⟨left, right⟩ := isNaN_of_le ordered
  have below : Storable x.toModel.unpack := storable_unpack left
  have above : Storable y.toModel.unpack := storable_unpack right
  have number : lower.isNaN = false := (congrArg _ first).trans (follows.isNaN_eq_false below)
  have number' : upper.isNaN = false := (congrArg _ second).trans (follows.isNaN_eq_false above)
  rw [le_iff_level left right] at ordered
  rw [le_iff_level number number', first, second]
  exact follows.level_le below above ordered

/-- The opposites of such doubles are in the reverse order. -/
theorem Follows.ge (follows : Follows f g) (ordered : x ≤ y)
    (first : lower.toModel.unpack = (Float.Model.pack (f y.toModel.unpack)).unpack.neg)
    (second : upper.toModel.unpack = (Float.Model.pack (f x.toModel.unpack)).unpack.neg) :
    lower ≤ upper := by
  -- Opposite levels are in the reverse order.
  obtain ⟨left, right⟩ := isNaN_of_le ordered
  have below : Storable x.toModel.unpack := storable_unpack left
  have above : Storable y.toModel.unpack := storable_unpack right
  have number : lower.isNaN = false := by
    refine (congrArg _ first).trans ?_
    rw [isNaN_neg]
    exact follows.isNaN_eq_false above
  have number' : upper.isNaN = false := by
    refine (congrArg _ second).trans ?_
    rw [isNaN_neg]
    exact follows.isNaN_eq_false below
  rw [le_iff_level left right] at ordered
  rw [le_iff_level number number', first, second, level_neg, level_neg]
  exact neg_le_neg (follows.level_le below above ordered)

end Follows

/-- Multiplying by a positive double keeps the order of doubles. -/
theorem mul_le_mul_of_le (positive : 0.0 < z) (finite : z.isFinite = true) (ordered : x ≤ y) :
    z * x ≤ z * y := by
  -- A positive double unpacks to a positive mantissa, so the product is one of the functions above.
  obtain ⟨mantissa, exponent, some, canonical, found⟩ := unpack_of_positive positive finite
  refine (follows_mul some canonical).le ordered ?_ ?_
  · rw [unpack_mul, found]
  · rw [unpack_mul, found]

/-- Dividing by a positive double keeps the order of doubles. -/
theorem div_le_div_of_le (positive : 0.0 < z) (finite : z.isFinite = true) (ordered : x ≤ y) :
    x / z ≤ y / z := by
  obtain ⟨mantissa, exponent, some, canonical, found⟩ := unpack_of_positive positive finite
  refine (follows_div some canonical).le ordered ?_ ?_
  · rw [unpack_div, found]
  · rw [unpack_div, found]

/-- Dividing by a negative double reverses the order of doubles. -/
theorem div_le_div_of_ge (negative : z < 0.0) (finite : z.isFinite = true) (ordered : x ≤ y) :
    y / z ≤ x / z := by
  -- Dividing by a negative number is dividing by its opposite and changing the sign.
  obtain ⟨mantissa, exponent, some, canonical, found⟩ := unpack_of_negative negative finite
  refine (follows_div some canonical).ge ordered ?_ ?_
  · rw [unpack_div, found, unpacked_div_negative, unpack_pack_neg]
  · rw [unpack_div, found, unpacked_div_negative, unpack_pack_neg]

/-- Taking a larger double away from a fixed one leaves no more. -/
theorem sub_le_sub_of_le (finite : z.isFinite = true) (ordered : x ≤ y) : z - y ≤ z - x := by
  -- The difference is the opposite of a function that keeps the order.
  have number : z.isNaN = false := (isNaN_of_le (float_le_refl finite)).1
  refine (follows_sub (storable_unpack number) finite).ge ordered ?_ ?_
  · rw [unpack_sub, unpack_pack_neg, unpacked_neg_neg]
  · rw [unpack_sub, unpack_pack_neg, unpacked_neg_neg]

/-- Taking a positive number away from a double does not make it larger. -/
theorem sub_le_self (number : x.isNaN = false) (positive : 0.0 < y) (finite : y.isFinite = true) :
    x - y ≤ x := by
  obtain ⟨mantissa, exponent, some, canonical, found⟩ := unpack_of_positive positive finite
  have storable : Storable x.toModel.unpack := storable_unpack number
  have other : Storable y.toModel.unpack := storable_unpack (by rw [found]; rfl)
  rcases storable.finite_or with whole | ⟨sign, infinite⟩
  · have taken : 0 < value y.toModel.unpack := by
      have held : Holds (mantissa * 2 ^ exponent) y.toModel.unpack := found ▸ .finite canonical rfl
      rw [held.value_eq]
      positivity
    -- The exact difference lies below a number that is its own rounding.
    have difference := storable.sub other whole finite
    have lowered := difference.level_le (storable.roundsTo whole) (sub_lt_self _ taken)
    rw [storable.unpack_pack, ← unpack_sub] at lowered
    exact (le_iff_level difference.isNaN_eq_false number).mpr lowered
  · -- An infinity stays what it is.
    have same : (x - y).toModel.unpack = .infinity sign := by
      rw [unpack_sub, infinite, found]
      exact unpack_pack_infinity sign
    refine (le_iff_level ((congrArg _ same).trans rfl) number).mpr ?_
    rw [same, infinite]

end Doubles

end Decksmith.Binary64
