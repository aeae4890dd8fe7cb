import Decksmith.Preferences.Ratios
import Decksmith.Proofs.Binary64.Conversion

/-! The counts that the shares of a deck amount to add up to no more than its size, although every share is
rounded several times. -/

namespace Decksmith

namespace Binary64

open Float.Model Float.Model.UnpackedFloat

variable {a b lower : ℚ} {x y : Float}

/-- The whole part of what is left of a packed number does not exceed the number. -/
theorem Packed.toNat_toUInt64_le (packed : Packed a x.toModel.unpack) :
    (x.toUInt64.toNat : ℚ) ≤ a := by
  generalize unpacked : x.toModel.unpack = u at packed
  cases packed with
  | kept holds =>
    rw [← unpacked] at holds
    rw [holds.toNat_toUInt64]
    exact (Nat.cast_le.mpr (Nat.min_le_left _ _)).trans (Nat.floor_le holds.nonneg)
  | overflow large =>
    -- Even the largest word is far below the numbers that are too large for a double.
    have word : (x.toUInt64.toNat : ℚ) ≤ 2 ^ 64 := by exact_mod_cast x.toUInt64.toNat_lt.le
    exact word.trans ((pow_le_pow_right₀ (by norm_num) (by norm_num)).trans large)

/-- A sum holds a number that is not below a bound, or it has become infinite. -/
inductive Reaches (lower : ℚ) : UnpackedFloat → Prop where
  | held {u : UnpackedFloat} {held : ℚ} (holds : Holds held u) (enough : lower ≤ held) : Reaches lower u
  | infinite : Reaches lower (.infinity .positive)

/-- A further number in a sum lowers the bound by one part in 2⁵³ at most. -/
theorem Reaches.add (reaches : Reaches lower x.toModel.unpack) (right : Holds b y.toModel.unpack) :
    Reaches ((lower + b) * (1 - 1 / 2 ^ 53)) (x + y).toModel.unpack := by
  generalize unpacked : x.toModel.unpack = u at reaches
  cases reaches with
  | infinite =>
    -- An infinite sum stays infinite, whatever finite number is added.
    have infinite : ∀ {v : UnpackedFloat}, Holds b v →
        UnpackedFloat.add Format.binary64 (.infinity .positive) v = .infinity .positive := by
      intro v holds
      cases holds <;> rfl
    rw [unpack_add, unpacked, infinite right]
    exact .infinite
  | @held _ held holds enough =>
    rw [← unpacked] at holds
    obtain ⟨rounded, rounds, packed⟩ := packed_add holds right
    -- Both numbers are multiples of the least power of two, and so is their sum.
    obtain ⟨first, whole⟩ := holds.multiple
    obtain ⟨second, also⟩ := right.multiple
    have multiple : held + b = ((first + second : Nat) : ℚ) * 2 ^ (-1074 : Int) := by
      rw [whole, also, Nat.cast_add, add_mul]
    have near := (abs_le.mp (rounds.near_of_multiple multiple)).1
    have bound : (lower + b) * (1 - 1 / 2 ^ 53) ≤ rounded := by
      have : (lower + b) * (1 - 1 / 2 ^ 53) ≤ (held + b) * (1 - 1 / 2 ^ 53) := by gcongr
      linarith
    generalize (x + y).toModel.unpack = v at packed
    cases packed with
    | kept holds => exact .held holds bound
    | overflow large => exact .infinite

/-- The whole part of a finite number divided by an infinity is zero. -/
theorem toNat_div_infinity (left : Holds a x.toModel.unpack)
    (infinite : y.toModel.unpack = .infinity .positive) : (x / y).toUInt64.toNat = 0 := by
  have quotient := unpack_div x y
  -- Dividing a number by an infinity gives a zero, whose sign does not matter.
  have zero : ∀ {u : UnpackedFloat}, Holds a u →
      ∃ sign, UnpackedFloat.div Format.binary64 u (.infinity .positive) = .zero sign := by
    intro u holds
    cases holds <;> exact ⟨_, rfl⟩
  obtain ⟨sign, none⟩ := zero left
  rw [infinite, none, unpack_pack_zero] at quotient
  have holds : Holds 0 (x / y).toModel.unpack := quotient ▸ .zero sign rfl
  rw [holds.toNat_toUInt64, Nat.floor_zero]
  rfl

end Binary64

namespace Ratios

open Binary64

/-- All the shares. -/
def shares (ratios : Ratios) : List Float :=
  [ratios.lands, ratios.creatures, ratios.otherPermanents, ratios.nonpermanents]

/-- No share is negative, and all of them are finite, also times the size of a deck. -/
structure Sensible (ratios : Ratios) (deckSize : Nat) : Prop where
  nonnegative : ∀ share ∈ ratios.shares, 0.0 ≤ share
  finite : ∀ share ∈ ratios.shares, share.isFinite = true
  scaled : ∀ share ∈ ratios.shares, (share * Float.ofNat deckSize).isFinite = true

variable {ratios : Ratios} {deckSize : Nat} {share : Float} {held : ℚ}

/-- A share of a positive total amounts to no more cards than the quotient says, apart from the rounding of the
product and of the quotient. -/
theorem count_le_quotient (small : deckSize < 2 ^ 50) {total : ℚ}
    (holds : Holds total ratios.total.toModel.unpack) (positive : 0 < total)
    (sharing : Holds held share.toModel.unpack) (scaled : (share * Float.ofNat deckSize).isFinite = true) :
    (ratios.count share deckSize : ℚ) ≤
      held * deckSize * (1 / total) * (1 + 1 / 2 ^ 53) ^ 2 + 2 ^ (-1075 : Int) := by
  have size : Holds deckSize (Float.ofNat deckSize).toModel.unpack := holds_ofNat_exact (by omega)
  have some : ¬ ratios.total ≤ 0.0 := by
    rw [holds.le_iff_le holds_zero]
    exact positive.not_ge
  rw [count, if_neg some]
  obtain ⟨product, rounds, packed⟩ := packed_mul sharing size
  have multiplied := packed.of_finite scaled
  obtain ⟨quotient, again, last⟩ := packed_div multiplied holds positive
  -- The product of a multiple of the least power of two with a whole number is such a multiple, so that only
  -- the quotient can be below what is held with full precision.
  obtain ⟨times, whole⟩ := sharing.multiple
  have multiple : held * deckSize = ((times * deckSize : Nat) : ℚ) * 2 ^ (-1074 : Int) := by
    rw [whole, Nat.cast_mul]
    ring
  have first := (abs_le.mp (rounds.near_of_multiple multiple)).2
  have second := (abs_le.mp (again.near (div_nonneg multiplied.nonneg positive.le))).2
  calc ((share * Float.ofNat deckSize / ratios.total).toUInt64.toNat : ℚ)
      ≤ quotient := last.toNat_toUInt64_le
    _ ≤ product / total * (1 + 1 / 2 ^ 53) + 2 ^ (-1075 : Int) := by linarith
    _ ≤ held * deckSize * (1 + 1 / 2 ^ 53) / total * (1 + 1 / 2 ^ 53) + 2 ^ (-1075 : Int) := by
      gcongr
      linarith
    _ = held * deckSize * (1 / total) * (1 + 1 / 2 ^ 53) ^ 2 + 2 ^ (-1075 : Int) := by ring

/-- A share amounts to no more cards than its part of the deck, apart from the rounding of a product and of
a quotient. The part is the same for all shares, and it is none if the total is zero or infinite. -/
theorem count_le_part (small : deckSize < 2 ^ 50) {lower : ℚ}
    (reaches : Reaches lower ratios.total.toModel.unpack) :
    ∃ part : ℚ, 0 ≤ part ∧ lower * part ≤ 1 ∧
      ∀ {share : Float} {held : ℚ}, Holds held share.toModel.unpack →
        (share * Float.ofNat deckSize).isFinite = true →
        (ratios.count share deckSize : ℚ) ≤
          held * deckSize * part * (1 + 1 / 2 ^ 53) ^ 2 + 2 ^ (-1075 : Int) := by
  have tiny : (0 : ℚ) < 2 ^ (-1075 : Int) := by positivity
  generalize unpacked : ratios.total.toModel.unpack = u at reaches
  cases reaches with
  | infinite =>
    refine ⟨0, le_refl _, by norm_num, fun {share held} sharing scaled => ?_⟩
    have none : ratios.count share deckSize = 0 := by
      have size : Holds deckSize (Float.ofNat deckSize).toModel.unpack := holds_ofNat_exact (by omega)
      obtain ⟨product, -, packed⟩ := packed_mul sharing size
      unfold count
      split
      · rfl
      · -- A finite number divided by an infinity is zero.
        exact toNat_div_infinity (packed.of_finite scaled) unpacked
    rw [none, Nat.cast_zero, mul_zero, zero_mul, zero_add]
    exact tiny.le
  | @held _ total holds enough =>
    rw [← unpacked] at holds
    rcases holds.nonneg.eq_or_lt with none | positive
    · -- Without a positive total no share amounts to anything.
      refine ⟨0, le_refl _, by norm_num, fun {share held} _ _ => ?_⟩
      have : ratios.total ≤ 0.0 := (holds.le_iff_le holds_zero).mpr none.ge
      rw [count, if_pos this, Nat.cast_zero, mul_zero, zero_mul, zero_add]
      exact tiny.le
    · refine ⟨1 / total, by positivity, ?_, fun sharing scaled =>
        count_le_quotient small holds positive sharing scaled⟩
      rw [mul_one_div, div_le_one positive]
      exact enough

/-- The parts of four numbers add up to no more than the whole, apart from six parts in 2⁵³: three rounded
sums have made the total smaller, and a product and a quotient have made each part larger. -/
theorem parts_le {lands creatures others spells part : ℚ} (some : 0 ≤ lands + creatures) (more : 0 ≤ others)
    (last : 0 ≤ spells) (least : 0 ≤ part)
    (most : (((lands + creatures) * (1 - 1 / 2 ^ 53) + others) * (1 - 1 / 2 ^ 53) + spells) *
      (1 - 1 / 2 ^ 53) * part ≤ 1) :
    (lands + creatures + others + spells) * part * (1 + 1 / 2 ^ 53) ^ 2 ≤ 1 + 6 / 2 ^ 53 := by
  -- The later a number comes in, the fewer sums it goes through.
  have kept : (lands + creatures + others + spells) * (1 - 1 / 2 ^ 53) ^ 3 ≤
      (((lands + creatures) * (1 - 1 / 2 ^ 53) + others) * (1 - 1 / 2 ^ 53) + spells) *
        (1 - 1 / 2 ^ 53) := by
    have third : others * (1 - 1 / 2 ^ 53) ^ 3 ≤ others * (1 - 1 / 2 ^ 53) ^ 2 :=
      mul_le_mul_of_nonneg_left (by norm_num) more
    have fourth : spells * (1 - 1 / 2 ^ 53) ^ 3 ≤ spells * (1 - 1 / 2 ^ 53) :=
      mul_le_mul_of_nonneg_left (by norm_num) last
    linarith
  have product : 0 ≤ (lands + creatures + others + spells) * part :=
    mul_nonneg (add_nonneg (add_nonneg some more) last) least
  calc (lands + creatures + others + spells) * part * (1 + 1 / 2 ^ 53) ^ 2
      ≤ (lands + creatures + others + spells) * part *
          ((1 - 1 / 2 ^ 53) ^ 3 * (1 + 6 / 2 ^ 53)) :=
        mul_le_mul_of_nonneg_left (by norm_num) product
    _ = (lands + creatures + others + spells) * (1 - 1 / 2 ^ 53) ^ 3 * part * (1 + 6 / 2 ^ 53) := by
        ring
    _ ≤ 1 * (1 + 6 / 2 ^ 53) := by
        gcongr
        exact (mul_le_mul_of_nonneg_right kept least).trans most
    _ = 1 + 6 / 2 ^ 53 := one_mul _

/-- The shares of a deck of fewer than 2⁵⁰ cards amount to no more cards than the deck has. -/
theorem counts_le {ratios : Ratios} {deckSize : Nat} (sensible : ratios.Sensible deckSize)
    (small : deckSize < 2 ^ 50) :
    (ratios.shares.map fun share => ratios.count share deckSize).sum ≤ deckSize := by
  obtain ⟨nonnegative, finite, scaled⟩ := sensible
  simp only [shares, List.forall_mem_cons, List.not_mem_nil, IsEmpty.forall_iff, implies_true, and_true]
    at nonnegative finite scaled
  obtain ⟨lands, landsHeld⟩ := holds_of_finite nonnegative.1 finite.1
  obtain ⟨creatures, creaturesHeld⟩ := holds_of_finite nonnegative.2.1 finite.2.1
  obtain ⟨others, othersHeld⟩ := holds_of_finite nonnegative.2.2.1 finite.2.2.1
  obtain ⟨spells, spellsHeld⟩ := holds_of_finite nonnegative.2.2.2 finite.2.2.2
  have start : Reaches lands ratios.lands.toModel.unpack := .held landsHeld (le_refl _)
  have total := ((start.add creaturesHeld).add othersHeld).add spellsHeld
  obtain ⟨part, least, most, bound⟩ := count_le_part small total
  have first := bound landsHeld scaled.1
  have second := bound creaturesHeld scaled.2.1
  have third := bound othersHeld scaled.2.2.1
  have fourth := bound spellsHeld scaled.2.2.2
  have whole := parts_le (add_nonneg landsHeld.nonneg creaturesHeld.nonneg) othersHeld.nonneg
    spellsHeld.nonneg least most
  -- Below 2⁵⁰ cards, six parts in 2⁵³ are three quarters of a card.
  have size : (deckSize : ℚ) ≤ 2 ^ 50 := by exact_mod_cast small.le
  have tiny : (2 : ℚ) ^ (-1075 : Int) ≤ 2 ^ (-5 : Int) :=
    zpow_le_zpow_right₀ (by norm_num) (by norm_num)
  have less : (((ratios.shares.map fun share => ratios.count share deckSize).sum : Nat) : ℚ) <
      deckSize + 1 := by
    simp only [shares, List.map_cons, List.map_nil, List.sum_cons, List.sum_nil, Nat.cast_add, add_zero]
    calc (ratios.count ratios.lands deckSize : ℚ) + (ratios.count ratios.creatures deckSize +
          (ratios.count ratios.otherPermanents deckSize + ratios.count ratios.nonpermanents deckSize))
        ≤ deckSize * ((lands + creatures + others + spells) * part * (1 + 1 / 2 ^ 53) ^ 2) +
            4 * 2 ^ (-1075 : Int) := by linarith
      _ ≤ deckSize * (1 + 6 / 2 ^ 53) + 4 * 2 ^ (-5 : Int) := by gcongr
      _ < deckSize + 1 := by
        norm_num
        linarith only [size]
  exact Nat.lt_succ_iff.mp (by exact_mod_cast less)

end Ratios

end Decksmith
