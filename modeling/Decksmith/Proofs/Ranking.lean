import Decksmith.Proofs.Binary64.Increasing
import Decksmith.Proofs.Query.Opposition
import Decksmith.Ranking

/-! Rankings: which records score, and how the scores are ordered. The division by the largest value keeps the
order that the direction promises, unless every value is negative. -/

namespace Decksmith

open Binary64

/-- The other end of a ranking. -/
def Direction.opposite : Direction → Direction
  | least => most
  | most => least

/-- The order that a direction promises for the scores of a smaller and of a larger value. -/
def Direction.Promises : Direction → Float → Float → Prop
  | least, smaller, larger => larger ≤ smaller
  | most, smaller, larger => smaller ≤ larger

instance (direction : Direction) (smaller larger : Float) : Decidable (direction.Promises smaller larger) :=
  match direction with
  | .least => inferInstanceAs (Decidable (larger ≤ smaller))
  | .most => inferInstanceAs (Decidable (smaller ≤ larger))

/-- Scores of zero are in the order that any direction promises. -/
theorem Direction.promises_zero (direction : Direction) : direction.Promises 0.0 0.0 := by
  -- Zero is no larger than itself, which is what either direction asks for.
  have same : (0.0 : Float) ≤ 0.0 := holds_zero.le_iff_le holds_zero |>.mpr le_rfl
  cases direction with
  | least => exact same
  | most => exact same

namespace Ranking

variable (ranking : Ranking) (records : List Record)

/-- The value of a record. -/
def value? (record : Record) : Option Float :=
  (record.sortField ranking.key).asNumber?

/-- The score of a record among others. -/
def score? (record : Record) : Option Float :=
  lastScore? (ranking.scores records) record.id

/-- Every value gets its points, so values and scores are of the same cards. -/
theorem map_fst_scores :
    (ranking.scores records).map Prod.fst = (ranking.values records).map Prod.fst := by
  rw [scores]
  -- Without a largest value there are no values either.
  cases values : ranking.values records with
  | nil => rfl
  | cons first others => simp [largest?]

/-- The values are those of the cards that have the attribute. -/
theorem mem_map_fst_values {id : CardId} :
    id ∈ (ranking.values records).map Prod.fst ↔
      ∃ record ∈ records, record.id = id ∧ (record.sortField ranking.key).asNumber?.isSome := by
  -- A card is listed with its value, and only if there is one.
  simp only [values, List.mem_map, List.mem_filterMap, Option.map_eq_some_iff, Option.isSome_iff_exists]
  constructor
  · rintro ⟨entry, ⟨record, here, value, found, rfl⟩, rfl⟩
    exact ⟨record, here, rfl, value, found⟩
  · rintro ⟨record, here, rfl, value, found⟩
    exact ⟨(record.id, value), ⟨record, here, value, found, rfl⟩, rfl⟩

/-- A score is found for the cards that have one. -/
theorem isSome_lastScore? (scores : List (CardId × Float)) (id : CardId) :
    (lastScore? scores id).isSome ↔ id ∈ scores.map Prod.fst := by
  simp [lastScore?]

variable {ranking : Ranking} {records : List Record} {record : Record} {x y largest : Float}

/-- The entries of the values are those of the records that have the attribute. -/
theorem mem_values {entry : CardId × Float} : entry ∈ ranking.values records ↔
    ∃ record ∈ records, ∃ value, ranking.value? record = some value ∧ (record.id, value) = entry := by
  simp only [values, value?, List.mem_filterMap, Option.map_eq_some_iff]

/-- Where cards differ, a card has a score if it has the attribute itself. -/
theorem isSome_lastScore?_scores (distinct : (records.map Record.id).Nodup) (member : record ∈ records) :
    (lastScore? (ranking.scores records) record.id).isSome =
      (record.sortField ranking.key).asNumber?.isSome := by
  rw [Bool.eq_iff_iff, isSome_lastScore?, map_fst_scores, mem_map_fst_values]
  constructor
  · rintro ⟨other, here, same, ranked⟩
    -- A record with the same identity is the record itself.
    rwa [← List.inj_on_of_nodup_map distinct here member same]
  · exact fun ranked => ⟨record, member, rfl, ranked⟩

section Largest

variable {a b : Float} {numbers : List Float}

/-- The larger of two finite numbers is one of them, and neither is above it. -/
theorem larger_spec (left : a.isFinite = true) (right : b.isFinite = true) :
    (larger a b = a ∨ larger a b = b) ∧ a ≤ larger a b ∧ b ≤ larger a b := by
  -- The comparison keeps the one that is not smaller.
  unfold larger
  split
  · rename_i less
    exact ⟨.inr rfl, float_le_of_lt less, float_le_refl right⟩
  · rename_i less
    exact ⟨.inl rfl, float_le_refl left, le_of_not_lt right left less⟩

/-- Going through finite numbers keeps the largest of them. -/
theorem foldl_larger_spec {first : Float} {others : List Float}
    (finite : ∀ number ∈ first :: others, number.isFinite = true) :
    others.foldl larger first ∈ first :: others ∧
      ∀ number ∈ first :: others, number ≤ others.foldl larger first := by
  -- What is kept of the first two numbers takes the place of both.
  induction others generalizing first with
  | nil =>
    rw [List.foldl_nil, List.forall_mem_singleton]
    exact ⟨List.mem_singleton_self first, float_le_refl (finite first List.mem_cons_self)⟩
  | cons next others ih =>
    rw [List.forall_mem_cons, List.forall_mem_cons] at finite
    obtain ⟨left, right, rest⟩ := finite
    obtain ⟨either, above, above'⟩ := larger_spec left right
    have kept : (larger first next).isFinite = true := by
      rcases either with same | same
      · rwa [same]
      · rwa [same]
    obtain ⟨member, bound⟩ := ih (List.forall_mem_cons.mpr ⟨kept, rest⟩)
    rw [List.forall_mem_cons] at bound
    rw [List.foldl_cons, List.forall_mem_cons, List.forall_mem_cons]
    refine ⟨?_, float_le_trans above bound.1, float_le_trans above' bound.1, bound.2⟩
    rcases List.mem_cons.mp member with same | later
    · rw [same]
      rcases either with front | behind
      · rw [front]
        exact List.mem_cons_self
      · rw [behind]
        exact List.mem_cons_of_mem _ List.mem_cons_self
    · exact List.mem_cons_of_mem _ (List.mem_cons_of_mem _ later)

end Largest

/-- The number that the values are divided by: one of them, and no other one is above it. -/
structure Tops (ranking : Ranking) (records : List Record) (largest : Float) : Prop where
  found : largest? ((ranking.values records).map Prod.snd) = some largest
  reached : ∃ record ∈ records, ranking.value? record = some largest
  bound : ∀ record ∈ records, ∀ value, ranking.value? record = some value → value ≤ largest

/-- If some record has a value then there is a largest one. -/
theorem exists_tops (member : record ∈ records) (valued : ranking.value? record = some x) :
    ∃ largest, Tops ranking records largest := by
  -- The list of values holds the values of the records and no others.
  have listed : ∀ {value}, value ∈ (ranking.values records).map Prod.snd ↔
      ∃ record ∈ records, ranking.value? record = some value := by
    simp [mem_values]
  -- Values are finite, so any two of them can be compared.
  have finite : ∀ value ∈ (ranking.values records).map Prod.snd, value.isFinite = true := by
    intro value here
    obtain ⟨other, -, valued⟩ := listed.mp here
    exact FieldValue.isFinite_of_asNumber? valued
  have here := listed.mpr ⟨record, member, valued⟩
  cases numbers : (ranking.values records).map Prod.snd with
  | nil =>
    rw [numbers] at here
    cases here
  | cons first others =>
    rw [numbers] at finite
    obtain ⟨reached, bound⟩ := foldl_larger_spec finite
    rw [← numbers] at reached bound
    refine ⟨others.foldl larger first, by rw [numbers, largest?], listed.mp reached, ?_⟩
    exact fun other inside value valued => bound value (listed.mpr ⟨other, inside, valued⟩)

/-- The largest value is finite. -/
theorem Tops.finite (tops : Tops ranking records largest) : largest.isFinite = true := by
  obtain ⟨record, -, valued⟩ := tops.reached
  exact FieldValue.isFinite_of_asNumber? valued

/-- Where cards differ, the score of a record are the points for its value. -/
theorem Tops.score?_eq (tops : Tops ranking records largest) (distinct : (records.map Record.id).Nodup)
    (member : record ∈ records) (valued : ranking.value? record = some x) :
    ranking.score? records record = some (ranking.points x largest) := by
  have scored : (ranking.score? records record).isSome = true := by
    rw [score?, isSome_lastScore?_scores distinct member]
    exact Option.isSome_of_eq_some valued
  obtain ⟨score, found⟩ := Option.isSome_iff_exists.mp scored
  obtain ⟨entry, hit, same⟩ := Option.map_eq_some_iff.mp found
  have named : entry.1 = record.id := by simpa using List.find?_some hit
  -- The entry that is found was made from the record itself.
  have here : entry ∈ ranking.scores records := List.mem_reverse.mp (List.mem_of_find?_eq_some hit)
  simp only [scores, tops.found, List.mem_map, mem_values] at here
  obtain ⟨_, ⟨other, inside, value, valued', rfl⟩, rfl⟩ := here
  obtain rfl := List.inj_on_of_nodup_map distinct inside member named
  rw [valued] at valued'
  obtain rfl := Option.some.inj valued'
  rw [found, ← same]

/-- The largest value does not depend on the order of the records, but for the sign of a zero. -/
theorem Tops.eq_or_zeros {others : List Record} {highest : Float} (tops : Tops ranking records largest)
    (also : Tops ranking others highest) (same : others.Perm records) :
    largest = highest ∨ (largest == 0.0) = true ∧ (highest == 0.0) = true := by
  -- Each of the two values is reached among the other records, where it is not above the other one.
  obtain ⟨record, here, valued⟩ := tops.reached
  obtain ⟨other, there, valued'⟩ := also.reached
  exact eq_or_zeros_of_le (also.bound record (same.mem_iff.mpr here) largest valued)
    (tops.bound other (same.mem_iff.mp there) highest valued')

/-- Where cards differ, the score of a record does not depend on the order in which the records come. -/
theorem score?_eq_of_perm {others : List Record} (distinct : (records.map Record.id).Nodup)
    (same : others.Perm records) (member : record ∈ records) :
    ranking.score? others record = ranking.score? records record := by
  have distinct' : (others.map Record.id).Nodup := (same.map Record.id).nodup_iff.mpr distinct
  have member' : record ∈ others := same.mem_iff.mpr member
  cases valued : ranking.value? record with
  | none =>
    -- Without a value of its own the record has no score in either order.
    have unscored : ∀ {among : List Record}, (among.map Record.id).Nodup → record ∈ among →
        ranking.score? among record = none := by
      intro among differ inside
      rw [← Option.not_isSome_iff_eq_none, score?, isSome_lastScore?_scores differ inside]
      exact Option.not_isSome_iff_eq_none.mpr valued
    rw [unscored distinct' member', unscored distinct member]
  | some value =>
    obtain ⟨largest, tops⟩ := exists_tops member valued
    obtain ⟨highest, tops'⟩ := exists_tops member' valued
    rw [tops.score?_eq distinct member valued, tops'.score?_eq distinct' member' valued]
    rcases tops.eq_or_zeros tops' same with rfl | ⟨zero, zero'⟩
    · rfl
    · -- No points are given for any value if the largest one is a zero of either sign.
      rw [points, points, if_pos zero, if_pos zero']

/-- The points for two values are in the order that the direction promises if the largest value is not
negative, and in the opposite order if it is not positive. -/
theorem points_promised (positive : 0.0 < ranking.pool) (finite : ranking.pool.isFinite = true)
    (bounded : largest.isFinite = true) (ordered : x ≤ y) :
    (0.0 ≤ largest → ranking.direction.Promises (ranking.points x largest) (ranking.points y largest)) ∧
      (largest ≤ 0.0 →
        ranking.direction.opposite.Promises (ranking.points x largest) (ranking.points y largest)) := by
  unfold points
  by_cases zero : (largest == 0.0) = true
  · rw [if_pos zero, if_pos zero]
    exact ⟨fun _ => Direction.promises_zero _, fun _ => Direction.promises_zero _⟩
  · rw [if_neg zero, if_neg zero]
    rw [Bool.not_eq_true] at zero
    have above : 0.0 ≤ largest → 0.0 < largest := fun least =>
      float_lt_of_le least ((float_beq_comm _ _).trans zero)
    have below : largest ≤ 0.0 → largest < 0.0 := fun most => float_lt_of_le most zero
    -- Only the division can turn the order around.
    cases ranking.direction with
    | most =>
      have product := mul_le_mul_of_le positive finite ordered
      exact ⟨fun least => div_le_div_of_le (above least) bounded product,
        fun most => div_le_div_of_ge (below most) bounded product⟩
    | least =>
      have product := mul_le_mul_of_le positive finite (sub_le_sub_of_le bounded ordered)
      exact ⟨fun least => div_le_div_of_le (above least) bounded product,
        fun most => div_le_div_of_ge (below most) bounded product⟩

/-- Scores are in the order that the direction promises if some value is not negative. If none is positive,
they are in the opposite order, since the values are divided by the largest of them. -/
theorem scores_promised (positive : 0.0 < ranking.pool) (finite : ranking.pool.isFinite = true)
    (distinct : (records.map Record.id).Nodup) {a b : Record} (here : a ∈ records) (there : b ∈ records)
    (left : ranking.value? a = some x) (right : ranking.value? b = some y) (ordered : x ≤ y) :
    ∃ first second, ranking.score? records a = some first ∧ ranking.score? records b = some second ∧
      ((∃ record ∈ records, ∃ value, ranking.value? record = some value ∧ 0.0 ≤ value) →
        ranking.direction.Promises first second) ∧
      ((∀ record ∈ records, ∀ value, ranking.value? record = some value → value ≤ 0.0) →
        ranking.direction.opposite.Promises first second) := by
  -- All values are divided by the largest one, whose sign decides about the order.
  obtain ⟨largest, tops⟩ := exists_tops here left
  obtain ⟨promised, reversed⟩ := points_promised positive finite tops.finite ordered
  refine ⟨_, _, tops.score?_eq distinct here left, tops.score?_eq distinct there right, ?_, ?_⟩
  · rintro ⟨record, member, value, valued, least⟩
    exact promised (float_le_trans least (tops.bound record member value valued))
  · intro none
    obtain ⟨record, member, valued⟩ := tops.reached
    exact reversed (none record member largest valued)

/-- A record of a power. -/
def powered (id : UInt32) (power : String) : Record where
  id := ⟨id⟩
  field _ := .absent
  sortField
    | .power => .text power
    | _ => .absent

/-- Ten points by power. -/
def byPower (direction : Direction) : Ranking :=
  ⟨.power, direction, 10.0⟩

/-- Two records, and only one of them has a negative power. -/
def signed : List Record :=
  [powered 1 "-1", powered 2 "3"]

/-- If the largest values score highest, then the record with the negative power scores no more. -/
theorem scores_promised_signed : ∃ first second,
    (byPower .most).score? signed (powered 1 "-1") = some first ∧
      (byPower .most).score? signed (powered 2 "3") = some second ∧
      Direction.most.Promises first second := by
  -- The powers are read as numbers, and one of them is not negative.
  obtain ⟨x, left, y, right, ordered, least⟩ : ∃ x ∈ (byPower .most).value? (powered 1 "-1"),
      ∃ y ∈ (byPower .most).value? (powered 2 "3"), x ≤ y ∧ 0.0 ≤ y := by decide +kernel
  have here : powered 1 "-1" ∈ signed := List.mem_cons_self
  have there : powered 2 "3" ∈ signed := List.mem_cons_of_mem _ List.mem_cons_self
  obtain ⟨first, second, scored, scored', promised, -⟩ :=
    @scores_promised (byPower .most) signed x y (by decide +kernel) (by decide +kernel) (by decide +kernel)
      _ _ here there left right ordered
  exact ⟨first, second, scored, scored', promised ⟨_, there, y, right, least⟩⟩

/-- Two records with negative powers. -/
def negatives : List Record :=
  [powered 1 "-2", powered 2 "-1"]

/-- The scores of two negative powers are in the order that either direction excludes. -/
theorem scores_reversed :
    (negatives.map Record.id).Nodup ∧
    (∃ x ∈ (byPower .most).value? (powered 1 "-2"),
      ∃ y ∈ (byPower .most).value? (powered 2 "-1"), x ≤ y) ∧
    (∃ first ∈ (byPower .most).score? negatives (powered 1 "-2"),
      ∃ second ∈ (byPower .most).score? negatives (powered 2 "-1"),
        ¬ Direction.most.Promises first second) ∧
    ∃ first ∈ (byPower .least).score? negatives (powered 1 "-2"),
      ∃ second ∈ (byPower .least).score? negatives (powered 2 "-1"),
        ¬ Direction.least.Promises first second := by
  decide +kernel

end Ranking

end Decksmith
