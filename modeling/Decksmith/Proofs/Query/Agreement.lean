import Decksmith.Proofs.Query.Mask

/-! A record's bit in a mask agrees with the test of the record alone, unless an intersection of nothing is
involved: that one holds of every record and selects none. -/

namespace Decksmith

namespace SetRelation

/-- What a relation asks of some items: a union asks it of one of them, and an intersection of all. -/
def Among {α : Type} (relation : SetRelation) (asked : α → Prop) (items : List α) : Prop :=
  match relation with
  | union => ∃ item ∈ items, asked item
  | intersect => ∀ item ∈ items, asked item

variable {α β : Type} {relation : SetRelation} {asked : α → Prop}

@[simp] theorem among_singleton (item : α) : relation.Among asked [item] ↔ asked item := by
  cases relation <;> simp [Among]

@[simp] theorem among_map (change : β → α) (items : List β) :
    relation.Among asked (items.map change) ↔ relation.Among (fun item => asked (change item)) items := by
  cases relation with
  | union =>
    constructor
    -- An item of the changed list comes from one of the others.
    · rintro ⟨_, member, asks⟩
      obtain ⟨item, here, rfl⟩ := List.mem_map.mp member
      exact ⟨item, here, asks⟩
    · rintro ⟨item, here, asks⟩
      exact ⟨change item, List.mem_map_of_mem here, asks⟩
  | intersect => exact List.forall_mem_map

/-- It does not matter in what order the items are listed, nor how often. -/
theorem among_of_mem_iff {items others : List α} (same : ∀ item, item ∈ items ↔ item ∈ others) :
    relation.Among asked items ↔ relation.Among asked others := by
  cases relation <;> simp only [Among, same]

/-- What holds of none of some items does not hold of as many as the relation asks. -/
theorem not_among {items : List α} (some : items ≠ []) (none : ∀ item ∈ items, ¬ asked item) :
    ¬ relation.Among asked items := by
  cases relation with
  | union =>
    rintro ⟨item, member, asks⟩
    exact none item member asks
  | intersect =>
    -- One of the items is enough to refute what is asked of all.
    intro all
    obtain ⟨item, member⟩ := List.exists_mem_of_ne_nil items some
    exact none item member (all item member)

/-- Lists that ask the same may be replaced where they stand one behind the other. -/
theorem among_append_congr {front back items others : List α}
    (first : relation.Among asked front ↔ relation.Among asked items)
    (second : relation.Among asked back ↔ relation.Among asked others) :
    relation.Among asked (front ++ back) ↔ relation.Among asked (items ++ others) := by
  -- Both relations distribute over the two parts of a list.
  cases relation with
  | union =>
    simp only [Among] at first second ⊢
    simp only [List.mem_append, or_and_right, exists_or, first, second]
  | intersect =>
    simp only [Among] at first second ⊢
    simp only [List.forall_mem_append, first, second]

/-- An item that asks the same of further items may be replaced by these. -/
theorem among_splice {item : α} {inner : List α} (same : asked item ↔ relation.Among asked inner)
    (front back : List α) :
    relation.Among asked (front ++ item :: back) ↔ relation.Among asked (front ++ inner ++ back) := by
  -- A union of unions is a union, and likewise for intersections.
  cases relation with
  | union =>
    simp only [Among] at same ⊢
    simp only [List.mem_append, List.mem_cons, or_and_right, exists_or, exists_eq_left, same, or_assoc]
  | intersect =>
    simp only [Among] at same ⊢
    simp only [List.forall_mem_append, List.forall_mem_cons, same, and_assoc]

end SetRelation

namespace Query

variable {mode : CaseMode}

/-- A predicate selects the records that pass it. -/
@[simp] theorem marks_test (predicate : Predicate) (record : Record) :
    (test predicate).marks mode record = (test predicate).holds mode record := by
  simp [marks, mask, holds]

/-- A group of nothing selects no record. -/
@[simp] theorem marks_group_nil (relation : SetRelation) (record : Record) :
    (group relation []).marks mode record = false := by
  simp [marks, mask]

/-- The bit of a group starts with that of its first operand and is combined with the others. -/
theorem marks_group_cons (relation : SetRelation) (first : Query) (others : List Query)
    (record : Record) :
    (group relation (first :: others)).marks mode record =
      others.foldl (fun bit query => relation.combine bit (query.marks mode record))
        (first.marks mode record) := by
  have pointwise : ∀ query ∈ first :: others, ∀ records,
      query.mask mode records = records.map (query.marks mode) :=
    fun query _ records => mask_eq_map records query
  -- The mask of the single record has this one bit.
  have single := mask_group_cons relation pointwise [record]
  rw [mask_eq_map] at single
  exact List.singleton_inj.mp single

/-- A union selects what one of its operands selects. -/
theorem marks_union (operands : List Query) (record : Record) :
    (group .union operands).marks mode record = operands.any fun query => query.marks mode record := by
  cases operands with
  | nil => simp
  | cons first others =>
    rw [marks_group_cons, List.any_cons]
    -- The bit so far stands in front of those that are still to come.
    generalize first.marks mode record = bit
    induction others generalizing bit with
    | nil => simp
    | cons query others ih => rw [List.foldl_cons, ih, List.any_cons, SetRelation.combine, Bool.or_assoc]

/-- An intersection of some operands selects what all of them select. -/
theorem marks_intersect {operands : List Query} (some : operands ≠ []) (record : Record) :
    (group .intersect operands).marks mode record =
      operands.all fun query => query.marks mode record := by
  cases operands with
  | nil => exact absurd rfl some
  | cons first others =>
    rw [marks_group_cons, List.all_cons]
    -- As in a union, with the other way to combine bits.
    generalize first.marks mode record = bit
    induction others generalizing bit with
    | nil => simp
    | cons query others ih =>
      rw [List.foldl_cons, ih (by simp), List.all_cons, SetRelation.combine, Bool.and_assoc]

/-- A group of some operands selects a record if that is so for as many of them as the relation asks. -/
theorem marks_group_iff {relation : SetRelation} {operands : List Query} (some : operands ≠ [])
    (record : Record) : (group relation operands).marks mode record = true ↔
      relation.Among (fun query => query.marks mode record = true) operands := by
  cases relation with
  | union => simp only [marks_union, List.any_eq_true, SetRelation.Among]
  | intersect => simp only [marks_intersect some, List.all_eq_true, SetRelation.Among]

/-- The same holds for a single operand that stands for itself. -/
theorem marks_ofOperands_iff {relation : SetRelation} {operands : List Query}
    (some : operands ≠ []) (record : Record) : (ofOperands relation operands).marks mode record = true ↔
      relation.Among (fun query => query.marks mode record = true) operands := by
  match operands with
  | [query] => rw [ofOperands, SetRelation.among_singleton]
  | first :: second :: others => exact marks_group_iff some record

/-- A query holds of every record that it selects. -/
theorem holds_of_marks {query : Query} {record : Record} (marked : query.marks mode record = true) :
    query.holds mode record = true := by
  -- The two answers differ only where an intersection has no operand, and then the query holds.
  induction query using induction with
  | test predicate => rwa [marks_test] at marked
  | group relation operands parts =>
    cases relation with
    | union =>
      rw [marks_union, List.any_eq_true] at marked
      rw [holds_union, List.any_eq_true]
      obtain ⟨query, member, marked⟩ := marked
      exact ⟨query, member, parts query member marked⟩
    | intersect =>
      -- With an operand at hand, the intersection is not one of nothing.
      rw [holds_intersect, List.all_eq_true]
      intro query member
      rw [marks_intersect (List.ne_nil_of_mem member), List.all_eq_true] at marked
      exact parts query member (marked query member)

/-- A query in which every intersection has an operand. -/
inductive Proper : Query → Prop where
  | test (predicate : Predicate) : Proper (test predicate)
  | union {operands : List Query} (parts : ∀ query ∈ operands, Proper query) :
      Proper (group .union operands)
  | intersect {operands : List Query} (some : operands ≠ [])
      (parts : ∀ query ∈ operands, Proper query) : Proper (group .intersect operands)

/-- Without an intersection of nothing, a query selects the records that it holds of. -/
theorem Proper.marks_eq_holds {query : Query} (proper : query.Proper) (record : Record) :
    query.marks mode record = query.holds mode record := by
  -- The induction is on why the query is proper, with one case for each kind of group.
  induction proper with
  | test predicate => exact marks_test predicate record
  | union _ ih =>
    rw [marks_union, holds_union, Bool.eq_iff_iff, List.any_eq_true, List.any_eq_true]
    exact exists_congr fun query => and_congr_right fun member => by rw [ih query member]
  | intersect some _ ih =>
    rw [marks_intersect some, holds_intersect, Bool.eq_iff_iff, List.all_eq_true, List.all_eq_true]
    exact forall₂_congr fun query member => by rw [ih query member]

/-- Without an intersection of nothing, the mask tests every record by itself. -/
theorem Proper.mask_eq_map_holds {query : Query} (proper : query.Proper) (records : List Record) :
    query.mask mode records = records.map (query.holds mode) := by
  rw [mask_eq_map]
  exact List.map_congr_left fun record _ => proper.marks_eq_holds record

/-- The selected records are those whose own bit is set, in their order. -/
theorem select_eq_filter (query : Query) (records : List Record) :
    query.select mode records = records.filter (query.marks mode) := by
  rw [select, mask_eq_map]
  -- Every record is paired with its own bit, so both lists are gone through together.
  induction records with
  | nil => rfl
  | cons record others ih =>
    rw [List.map_cons, List.zip_cons_cons, List.filter_cons, List.filter_cons]
    split
    · rw [List.map_cons, ih]
    · exact ih

end Query

end Decksmith
