import Decksmith.Query.Selection

/-! A mask says of every record of a list, and of nothing else, whether it is selected. -/

namespace Decksmith.Query

/-- What holds of every predicate, and of a group if it holds of all operands, holds of every query. -/
@[elab_as_elim] theorem induction {P : Query → Prop} (test : ∀ predicate, P (.test predicate))
    (group : ∀ relation operands, (∀ query ∈ operands, P query) → P (.group relation operands))
    (query : Query) : P query := by
  -- Along with a query, the induction goes through the operands of a group.
  refine @Query.rec P (fun operands => ∀ query ∈ operands, P query) test group ?_ ?_ query
  · simp
  · intro first others here rest
    exact List.forall_mem_cons.mpr ⟨here, rest⟩

variable {mode : CaseMode}

/-- A union holds where one of its operands does. -/
@[simp] theorem holds_union (record : Record) (operands : List Query) :
    (group .union operands).holds mode record = operands.any (holds mode record) := by
  -- The mutual recursion over the operands looks for one that holds.
  rw [holds]
  induction operands with
  | nil => rw [anyHolds, List.any_nil]
  | cons query others ih => rw [anyHolds, List.any_cons, ih]

/-- An intersection holds where all of its operands do. -/
@[simp] theorem holds_intersect (record : Record) (operands : List Query) :
    (group .intersect operands).holds mode record = operands.all (holds mode record) := by
  -- It looks for one that does not hold.
  rw [holds]
  induction operands with
  | nil => rw [allHold, List.all_nil]
  | cons query others ih => rw [allHold, List.all_cons, ih]

/-- The masks of further operands are combined with a mask one by one. -/
theorem maskRest_eq_foldl (records : List Record) (relation : SetRelation) (selected : List Bool)
    (others : List Query) :
    maskRest mode records relation selected others =
      others.foldl
        (fun selected query => List.zipWith relation.combine selected (mask mode records query))
        selected := by
  -- The recursion over the further operands is a fold from the left.
  induction others generalizing selected with
  | nil => rw [maskRest, List.foldl_nil]
  | cons query others ih => rw [maskRest, List.foldl_cons, ih]

/-- Whether a query selects a record: the bit of the record in its own mask. -/
def marks (query : Query) (mode : CaseMode) (record : Record) : Bool :=
  query.mask mode [record] = [true]

/-- If every mask is made bit by bit, the bits are the records' own. -/
theorem mask_eq_map_marks {query : Query} {bit : Record → Bool}
    (pointwise : ∀ records, query.mask mode records = records.map bit) (records : List Record) :
    query.mask mode records = records.map (query.marks mode) := by
  rw [pointwise]
  refine List.map_congr_left fun record _ => ?_
  -- The mask of a single record is its bit.
  rw [marks, pointwise, List.map_singleton]
  cases bit record <;> decide

/-- The mask of a group combines the bits of each record, if those of its operands are made bit by bit. -/
theorem mask_group_cons (relation : SetRelation) {first : Query} {others : List Query}
    (parts : ∀ query ∈ first :: others, ∀ records,
      query.mask mode records = records.map (query.marks mode)) (records : List Record) :
    (group relation (first :: others)).mask mode records = records.map fun record =>
      others.foldl (fun bit query => relation.combine bit (query.marks mode record))
        (first.marks mode record) := by
  obtain ⟨start, rest⟩ := List.forall_mem_cons.mp parts
  -- The induction is on the further operands, each of which changes every bit by its own.
  have general : ∀ bit : Record → Bool, others.foldl
      (fun selected query => List.zipWith relation.combine selected (mask mode records query))
      (records.map bit) = records.map fun record =>
        others.foldl (fun bit query => relation.combine bit (query.marks mode record)) (bit record) := by
    clear parts
    induction others with
    | nil => exact fun _ => rfl
    | cons query others ih =>
      obtain ⟨next, rest⟩ := List.forall_mem_cons.mp rest
      intro bit
      have one : List.zipWith relation.combine (records.map bit) (mask mode records query) =
          records.map fun record => relation.combine (bit record) (query.marks mode record) := by
        rw [next, List.zipWith_map, List.zipWith_self]
      rw [List.foldl_cons, one, ih rest]
      rfl
  rw [mask, maskRest_eq_foldl, start]
  exact general _

/-- A mask looks at one record at a time. -/
theorem mask_eq_map (records : List Record) (query : Query) :
    query.mask mode records = records.map (query.marks mode) := by
  induction query using induction generalizing records with
  | test predicate =>
    exact mask_eq_map_marks (fun _ => by rw [mask]) records
  | group relation operands parts =>
    cases operands with
    -- A group of nothing has no operand to start from, and selects no record.
    | nil => exact mask_eq_map_marks (fun _ => by rw [mask]) records
    | cons first others =>
      exact mask_eq_map_marks (mask_group_cons relation fun query member records =>
        parts query member records) records

/-- A mask has one entry for each record. -/
@[simp] theorem length_mask (records : List Record) (query : Query) :
    (query.mask mode records).length = records.length := by
  rw [mask_eq_map, List.length_map]

end Decksmith.Query
