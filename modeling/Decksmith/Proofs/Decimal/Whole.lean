import Decksmith.Decimal.Numeral
import Decksmith.Decimal.Positional
import Decksmith.Proofs.Binary64.Conversion
import Decksmith.Proofs.Binary64.Levels
import Decksmith.Proofs.Text.Trimming

/-! Natural numbers in decimal: a text of digits is read as the number that it spells, and a natural number of
at most 53 bits is written as a text that spells it. -/

namespace Decksmith.Decimal

open Binary64

/-- A text that spells a natural number in decimal digits, with or without zeros in front. -/
structure Spells (text : String) (number : Nat) : Prop where
  nonempty : text.toList ≠ []
  digits : ∀ c ∈ text.toList, c.isDigit = true
  value : digitsValue text.toList = number

section Reading

/-- The digits stand in a row. -/
theorem isDigit_iff {c : Char} : c.isDigit = true ↔ 48 ≤ c.toNat ∧ c.toNat ≤ 57 := by
  -- The comparison of characters is the comparison of their codes.
  simp only [Char.isDigit, Bool.and_eq_true, decide_eq_true_eq, ge_iff_le, UInt32.le_iff_toNat_le]
  rfl

/-- A digit is no blank. -/
theorem isBlank_of_isDigit {c : Char} (digit : c.isDigit = true) : Text.isBlank c = false := by
  -- The codes of blanks lie elsewhere, in ranges that arithmetic can tell apart.
  obtain ⟨least, most⟩ := isDigit_iff.mp digit
  simp only [Text.isBlank, Bool.or_eq_false_iff, Bool.and_eq_false_iff, decide_eq_false_iff_not,
    beq_eq_false_iff_ne]
  omega

/-- A digit is in lower case. -/
theorem toLower_of_isDigit {c : Char} (digit : c.isDigit = true) : c.toLower = c := by
  obtain ⟨least, most⟩ := isDigit_iff.mp digit
  unfold Char.toLower
  split
  -- Upper-case letters stand behind the digits.
  · rename_i upper
    simp only [ge_iff_le, UInt32.le_iff_toNat_le] at upper
    have : 65 ≤ c.toNat := upper.1
    omega
  · rfl

/-- A text of digits has no sign. -/
theorem splitSign_of_digits {text : List Char} (digits : ∀ c ∈ text, c.isDigit = true) :
    splitSign text = (false, text) := by
  -- A sign would be the first character, and neither sign is a digit.
  unfold splitSign
  split
  · exact absurd (digits '-' List.mem_cons_self) (by decide)
  · exact absurd (digits '+' List.mem_cons_self) (by decide)
  · rfl

/-- It is a numeral without an exponent. -/
theorem readNumeral?_of_digits {text : List Char} (nonempty : text ≠ [])
    (digits : ∀ c ∈ text, c.isDigit = true) : readNumeral? text = some ⟨digitsValue text, 0⟩ := by
  -- The first span of digits takes the whole text, so neither a fraction nor an exponent is left.
  have whole : text.span Char.isDigit = (text, []) := by
    rw [List.span_eq_takeWhile_dropWhile, List.takeWhile_eq_self_iff.mpr digits,
      List.dropWhile_eq_nil_iff.mpr digits]
  rw [readNumeral?, whole]
  simp only [splitFraction, readExponent?, nonempty, false_and, if_false, Option.map_some, List.append_nil,
    List.length_nil, Nat.cast_zero, sub_zero]

/-- It is not one of the names of infinity or of what is no number. -/
theorem readUnsigned?_of_digits {text : List Char} (nonempty : text ≠ [])
    (digits : ∀ c ∈ text, c.isDigit = true) :
    readUnsigned? text = some (Numeral.toFloat ⟨digitsValue text, 0⟩) := by
  have kept : text.map Char.toLower = text :=
    (List.map_congr_left fun c member => toLower_of_isDigit (digits c member)).trans (List.map_id text)
  -- Each of the names has a letter in it.
  have other : ∀ {name : String} (letter : Char), letter ∈ name.toList → letter.isDigit = false →
      String.ofList (text.map Char.toLower) ≠ name := by
    rintro _ letter member letter' rfl
    rw [kept, String.toList_ofList] at member
    rw [digits letter member] at letter'
    cases letter'
  unfold readUnsigned?
  dsimp only
  rw [if_neg (not_or.mpr ⟨other 'i' (by decide) rfl, other 'i' (by decide) rfl⟩),
    if_neg (other 'n' (by decide) rfl), readNumeral?_of_digits nonempty digits, Option.map_some]

/-- A numeral that is a natural number of at most 53 bits has that number as its value. -/
theorem holds_toFloat_whole {number : Nat} (small : number < 2 ^ 53) :
    Holds number (Numeral.toFloat ⟨number, 0⟩).toModel.unpack := by
  rcases Nat.eq_zero_or_pos number with rfl | positive
  · rw [Nat.cast_zero]
    exact holds_zero
  -- At most sixteen digits are far from the limits where a numeral counts as huge or tiny.
  · have short : (Nat.toDigits 10 number).length ≤ 16 :=
      (Nat.length_toDigits_le_iff (by decide) (by decide)).mpr (by omega)
    -- With no power of ten the numeral is the conversion of its digits.
    have whole : Numeral.toFloat ⟨number, 0⟩ = Float.ofNat number := by
      unfold Numeral.toFloat
      dsimp only
      rw [if_neg positive.ne', if_neg (by omega), if_neg (by omega)]
      rfl
    rw [whole]
    exact holds_ofNat_exact small

/-- A text that spells a natural number of at most 53 bits is read as that number. -/
theorem Spells.readFinite? {text : String} {number : Nat} (spells : Spells text number)
    (small : number < 2 ^ 53) :
    ∃ x, Decimal.readFinite? text = some x ∧ Holds number x.toModel.unpack := by
  -- Digits are no blanks, so there is nothing to trim.
  have kept : Text.trim text.toList = text.toList :=
    Text.trim_of_not_blank fun c member => isBlank_of_isDigit (spells.digits c member)
  have holds := holds_toFloat_whole small
  -- The filter lets the number pass, because it is held and hence finite.
  have finite : Float.isFinite (Numeral.toFloat ⟨number, 0⟩) = true := holds.isFinite
  refine ⟨Numeral.toFloat ⟨number, 0⟩, ?_, holds⟩
  rw [Decimal.readFinite?, kept, read?, splitSign_of_digits spells.digits]
  -- There is no sign to apply.
  simp only [readUnsigned?_of_digits spells.nonempty spells.digits, spells.value, Option.map_some,
    Bool.false_eq_true, if_false, Option.filter_some, finite, if_true]

end Reading

section Writing

/-- The digits of a number in front of some zeros spell its product with a power of ten. -/
theorem spells_toDigits (number zeros : Nat) :
    Spells (String.ofList (Nat.toDigits 10 number ++ List.replicate zeros '0')) (number * 10 ^ zeros) where
  -- A number has at least one digit, zero included.
  nonempty := by
    rw [String.toList_ofList]
    exact List.append_ne_nil_of_left_ne_nil Nat.toDigits_ne_nil _
  -- The digits of the number are digits, and so are the zeros.
  digits := by
    intro c member
    rw [String.toList_ofList, List.mem_append] at member
    rcases member with digit | zero
    · exact Nat.isDigit_of_mem_toDigits (by decide) (by decide) digit
    · rw [List.eq_of_mem_replicate zero]
      rfl
  -- A zero behind the digits multiplies by ten, and the digits alone give the number back.
  value := by
    have same : ∀ text, digitsValue text = Nat.ofDigitChars 10 text 0 := fun _ => rfl
    rw [String.toList_ofList, same, Nat.ofDigitChars_append, Nat.ofDigitChars_ten_toDigits,
      Nat.ofDigitChars_replicate_zero, Nat.mul_comm]

section Bits

variable {x : Float} {mantissa : Nat} {exponent : Int} {positive : 0 < mantissa}

/-- The bits of a number above zero count the steps that lead to it. -/
theorem toNat_toBits_of_finite
    (found : x.toModel.unpack = .finite .positive mantissa exponent positive) :
    (x.toBits.toNat : Int) = steps mantissa exponent := by
  obtain ⟨canonical, bounded⟩ := unpack_canonical found
  have number : x.isNaN = false := by
    show x.toModel.unpack.isNaN = false
    rw [found]
    rfl
  have above := canonical.steps_pos positive
  -- On the one hand it stands on the level of its steps.
  have standing : level x.toModel.unpack = steps mantissa exponent := by
    rw [found]
    rfl
  -- On the other hand its place is what the bits say, with the highest bit as the sign.
  have key : Decimal.orderKey x = if x.toBits.toNat < 2 ^ 63 then (x.toBits.toNat : Int)
    else -((x.toBits.toNat - 2 ^ 63 : Nat) : Int) - 1 := rfl
  -- Its place in the total order is above zero, and there the bits say the place.
  rcases orderKey_cases number with ⟨-, same⟩ | ⟨below, -⟩
  · rw [key, standing] at same
    split at same
    · exact same
    · omega
  · omega

/-- The bits of a number above zero are split into its mantissa and its exponent. -/
theorem ofFloat_of_finite
    (found : x.toModel.unpack = .finite .positive mantissa exponent positive) :
    ∃ atBoundary, Binary.ofFloat x = .nonzero false ⟨mantissa, exponent, atBoundary⟩ := by
  obtain ⟨canonical, bounded⟩ := unpack_canonical found
  have lowest := canonical.lowest
  have narrow := canonical.narrow
  -- The bits count steps, and the steps are the exponent in front of the low bits of the mantissa.
  have counted := toNat_toBits_of_finite found
  unfold steps at counted
  -- The steps are fewer than half of all words, so the sign bit is not set.
  have unsigned : x.toBits.toNat / 0x8000000000000000 ≠ 1 := by omega
  unfold Binary.ofFloat Binary.ofBits
  simp only [unsigned, decide_false]
  rcases Nat.lt_or_ge mantissa (2 ^ 52) with short | leading
  · -- Without a leading bit the exponent is the least one.
    have least : exponent = -1074 := canonical.used.resolve_left short.not_ge
    have field : x.toBits.toNat / 0x10000000000000 % 0x800 = 0 := by omega
    have fraction : x.toBits.toNat % 0x10000000000000 = mantissa := by omega
    rw [field, fraction, if_neg (by decide), if_pos rfl, if_neg positive.ne', least]
    exact ⟨false, rfl⟩
  · -- With a leading bit there is a place for it in the exponent.
    have field : x.toBits.toNat / 0x10000000000000 % 0x800 = (exponent + 1075).toNat := by omega
    have fraction : x.toBits.toNat % 0x10000000000000 = mantissa - 2 ^ 52 := by omega
    rw [field, fraction, if_neg (by omega), if_neg (by omega)]
    have stored : (0x10000000000000 + (mantissa - 2 ^ 52) : Nat) = mantissa := by omega
    have power : (Int.ofNat (exponent + 1075).toNat - 1075 : Int) = exponent := by
      rw [Int.ofNat_eq_natCast]
      omega
    rw [stored, power]
    exact ⟨_, rfl⟩

end Bits

/-- A magnitude that is a natural number, and whose exponent widens it. -/
structure Magnitude.Whole (m : Magnitude) (number : Nat) : Prop where
  below : m.exponent ≤ 0
  widened : m.mantissa = number * 2 ^ (-m.exponent).toNat
  narrow : m.mantissa < 2 ^ 53
  positive : 0 < number

variable {m : Magnitude} {number : Nat}

namespace Magnitude.Whole

theorem gridNumerator (whole : m.Whole number) (place quarters : Nat) :
    m.gridNumerator place quarters = quarters := by
  -- Neither a power of two nor a power of ten widens the numerator, since both exponents are on the other side.
  have none : (m.exponent - 2).toNat = 0 := by
    have := whole.below
    omega
  have zero : (-(place : Int)).toNat = 0 := by omega
  rw [Magnitude.gridNumerator, powerPart, powerPart, none, zero]
  exact (Nat.mul_one _).trans (Nat.mul_one _)

theorem gridDenominator (whole : m.Whole number) (place : Nat) :
    m.gridDenominator place = 4 * (2 ^ (-m.exponent).toNat * 10 ^ place) := by
  -- The power of two counts quarters, which are two bits more.
  have quarters : (2 - m.exponent).toNat = (-m.exponent).toNat + 2 := by
    have := whole.below
    omega
  rw [Magnitude.gridDenominator, powerPart, powerPart, quarters, Int.toNat_natCast]
  show 2 ^ ((-m.exponent).toNat + 2) * 10 ^ place = _
  ring

/-- Among the multiples of a power of ten only the number itself rounds to the magnitude. -/
theorem roundsFrom_iff (whole : m.Whole number) (place digits : Nat) :
    m.roundsFrom place digits = true ↔ digits * 10 ^ place = number := by
  have scale : 0 < 2 ^ (-m.exponent).toNat := Nat.two_pow_pos _
  have some : 0 < m.mantissa := by
    rw [whole.widened]
    exact Nat.mul_pos whole.positive scale
  -- A point of the grid is four quarters of its multiple of the unit.
  have point : digits * (4 * (2 ^ (-m.exponent).toNat * 10 ^ place)) =
      4 * (digits * 10 ^ place * 2 ^ (-m.exponent).toNat) := by ring
  -- The lower half of the interval is one quarter or two, depending on the step below the magnitude.
  have fewer : (if m.atBoundary then 1 else 2) = 1 ∨ (if m.atBoundary then 1 else 2) = 2 := by
    split
    · exact .inl rfl
    · exact .inr rfl
  -- Both ends of the interval are less than one unit away, and so is no other multiple of the unit.
  have only : m.roundsFrom place digits = true ↔
      digits * 10 ^ place * 2 ^ (-m.exponent).toNat = m.mantissa := by
    unfold Magnitude.roundsFrom
    simp only [whole.gridNumerator, whole.gridDenominator, point]
    generalize digits * 10 ^ place * 2 ^ (-m.exponent).toNat = multiple
    generalize (if m.atBoundary then 1 else 2) = less at fewer
    split
    · simp only [Bool.and_eq_true, decide_eq_true_eq]
      omega
    · simp only [Bool.and_eq_true, decide_eq_true_eq]
      omega
  -- The scale is a common factor of the point and of the number.
  rw [only, whole.widened, Nat.mul_left_inj scale.ne']

/-- What a grid hits is the number itself. -/
theorem eq_of_nearestOnGrid (whole : m.Whole number) {place : Nat} {hit : Digits}
    (found : m.nearestOnGrid place = some hit) :
    hit.place = place ∧ hit.digits * 10 ^ place = number := by
  -- Of the two neighbors on the grid, the one that is returned rounds to the magnitude.
  unfold Magnitude.nearestOnGrid at found
  dsimp only at found
  split at found
  · rename_i below
    obtain rfl := Option.some.inj found
    rw [Bool.and_eq_true] at below
    exact ⟨rfl, (whole.roundsFrom_iff _ _).mp below.1⟩
  · split at found
    · rename_i above
      obtain rfl := Option.some.inj found
      exact ⟨rfl, (whole.roundsFrom_iff _ _).mp above⟩
    · cases found

/-- The grid of the units hits it. -/
theorem nearestOnGrid_zero (whole : m.Whole number) :
    m.nearestOnGrid (0 : Nat) = some ⟨number, (0 : Nat)⟩ := by
  -- On the units the magnitude lies exactly on a point of the grid.
  have below : m.gridNumerator (0 : Nat) (4 * m.mantissa) / m.gridDenominator (0 : Nat) = number := by
    have scale : 0 < 4 * 2 ^ (-m.exponent).toNat := Nat.mul_pos (by decide) (Nat.two_pow_pos _)
    rw [whole.gridNumerator, whole.gridDenominator, whole.widened, pow_zero, Nat.mul_one, Nat.mul_left_comm,
      Nat.mul_div_cancel _ scale]
  -- That point rounds to it, and the next one does not, so there is no choice to make.
  have hits : m.roundsFrom (0 : Nat) number = true :=
    (whole.roundsFrom_iff 0 number).mpr (by rw [pow_zero, Nat.mul_one])
  have misses : m.roundsFrom (0 : Nat) (number + 1) = false := by
    rw [← Bool.not_eq_true, whole.roundsFrom_iff, pow_zero, Nat.mul_one]
    omega
  unfold Magnitude.nearestOnGrid
  simp only [below, hits, misses, Bool.not_false, Bool.or_true, Bool.and_true, if_true]

/-- The search ends at the latest at the grid of the units. -/
theorem searchGrids_spec (whole : m.Whole number) (finer place : Nat) (enough : place < finer) :
    ∃ digits zeros : Nat,
      m.searchGrids finer place = ⟨digits, zeros⟩ ∧ digits * 10 ^ zeros = number := by
  -- The induction is on the grids that may still be tried, which outnumber the place.
  induction finer generalizing place with
  | zero => omega
  | succ finer ih =>
    rw [Magnitude.searchGrids]
    cases found : m.nearestOnGrid place with
    | some hit =>
      obtain ⟨same, number⟩ := whole.eq_of_nearestOnGrid found
      exact ⟨hit.digits, place, by rw [← same], number⟩
    | none =>
      -- The grid of the units would have hit.
      obtain _ | coarser := place
      · rw [whole.nearestOnGrid_zero] at found
        cases found
      · have down : ((coarser + 1 : Nat) : Int) - 1 = coarser := by omega
        rw [down]
        exact ih coarser (by omega)

/-- The search starts at a unit that is no fraction, and not far above the number. -/
theorem topPlace_bounds (whole : m.Whole number) : 0 ≤ m.topPlace ∧ m.topPlace < 20 := by
  -- The mantissa carries as many zero bits as the exponent takes away.
  have scale : 2 ^ (-m.exponent).toNat ≤ m.mantissa := by
    rw [whole.widened]
    exact Nat.le_mul_of_pos_left _ whole.positive
  have some : m.mantissa ≠ 0 := by
    have := Nat.two_pow_pos (-m.exponent).toNat
    omega
  -- The exponent takes away at most the bits that it has added.
  have least : (-m.exponent).toNat ≤ m.mantissa.log2 := (Nat.le_log2 some).mpr scale
  have most : m.mantissa.log2 < 53 := (Nat.log2_lt some).mpr whole.narrow
  have below := whole.below
  unfold Magnitude.topPlace
  omega

end Magnitude.Whole

/-- A magnitude that is a natural number is written as a text that spells it. -/
theorem Magnitude.Whole.spells (whole : m.Whole number) :
    Spells (String.ofList m.shortest.positional) number := by
  obtain ⟨least, most⟩ := whole.topPlace_bounds
  obtain ⟨top, start⟩ := Int.eq_ofNat_of_zero_le least
  obtain ⟨digits, zeros, found, same⟩ := whole.searchGrids_spec 20 top (by omega)
  -- The digits that are found stand in front of zeros, without a point.
  have text : m.shortest.positional = Nat.toDigits 10 digits ++ List.replicate zeros '0' := by
    rw [Magnitude.shortest, start, found]
    unfold Digits.positional
    dsimp only
    rw [if_pos (Int.natCast_nonneg zeros), Int.toNat_natCast]
  rw [text, ← same]
  exact spells_toDigits digits zeros

/-- The magnitude of a natural number that a canonical mantissa and exponent stand for. -/
theorem whole_of_canonical {mantissa : Nat} {exponent : Int} (canonical : Canonical mantissa exponent)
    (positive : 0 < number) (small : number < 2 ^ 53) (same : (number : ℚ) = mantissa * 2 ^ exponent)
    (atBoundary : Bool) : Magnitude.Whole ⟨mantissa, exponent, atBoundary⟩ number := by
  -- A positive exponent needs a full mantissa, and the product would have more than 53 bits.
  have below : exponent ≤ 0 := by
    by_contra above
    obtain ⟨places, up⟩ : ∃ places : Nat, exponent = (places + 1 : Nat) :=
      ⟨exponent.toNat - 1, by omega⟩
    have leading : 2 ^ 52 ≤ mantissa := canonical.used.resolve_right (by omega)
    -- A wider mantissa would be too large.
    have product : number = mantissa * 2 ^ (places + 1) := by
      rw [up, zpow_natCast] at same
      exact_mod_cast same
    have double : 2 ≤ 2 ^ (places + 1) := Nat.le_self_pow (Nat.succ_ne_zero places) 2
    have large : 2 ^ 52 * 2 ≤ number := by
      rw [product]
      exact Nat.mul_le_mul leading double
    omega
  refine ⟨below, ?_, canonical.narrow, positive⟩
  -- So the mantissa is the number, widened by what the exponent takes back.
  obtain ⟨places, down⟩ : ∃ places : Nat, exponent = -(places : Int) := ⟨(-exponent).toNat, by omega⟩
  subst down
  dsimp only
  rw [neg_neg, Int.toNat_natCast]
  rw [zpow_neg, zpow_natCast, ← div_eq_mul_inv, eq_div_iff (by positivity)] at same
  exact_mod_cast same.symm

/-- A natural number of at most 53 bits is written as a text that spells it. -/
theorem spells_write (small : number < 2 ^ 53) : Spells (write (Float.ofNat number)) number := by
  rcases Nat.eq_zero_or_pos number with rfl | some
  · have zero : write (Float.ofNat 0) = String.ofList (Nat.toDigits 10 0 ++ List.replicate 0 '0') := rfl
    rw [zero]
    exact spells_toDigits 0 0
  -- What is written is what the bits decode to, and they decode to the canonical form of the number.
  · have holds := holds_ofNat_exact small
    generalize found : (Float.ofNat number).toModel.unpack = u at holds
    cases holds with
    | zero sign none =>
      have none : number = 0 := by exact_mod_cast none
      omega
    | finite canonical same =>
      obtain ⟨atBoundary, decoded⟩ := ofFloat_of_finite found
      rw [write, decoded]
      exact (whole_of_canonical canonical some small same atBoundary).spells

end Writing

end Decksmith.Decimal
