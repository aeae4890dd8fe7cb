import Decksmith.Proofs.Assembly.Run
import Decksmith.Proofs.Binary64.Order
import Decksmith.Proofs.Query.Layout
import Decksmith.Recipe.Build

/-! Building a recipe: it succeeds just for valid recipes, reports the first of all faults, and leaves out nothing
that the recipe says. -/

namespace Decksmith

section Answers

variable {α β ε : Type} {Right : α → Prop} {faults : List ε} {outcome : Except ε α}

/-- An answer that depends on all faults there are: without any it is a value as it should be, and otherwise it is
the first fault. -/
inductive Answers (Right : α → Prop) : List ε → Except ε α → Prop where
  | value {value : α} (right : Right value) : Answers Right [] (.ok value)
  | fault (first : ε) (others : List ε) : Answers Right (first :: others) (.error first)

namespace Answers

/-- There is a value just when nothing is wrong. -/
theorem ok_iff (answers : Answers Right faults outcome) :
    (∃ value, outcome = .ok value) ↔ faults = [] := by
  -- There is either a value and no fault, or a first fault and perhaps others.
  cases answers with
  | value _ => simp
  | fault first others => simp

/-- An error is the first fault. -/
theorem error_iff (answers : Answers Right faults outcome) (error : ε) :
    outcome = .error error ↔ faults.head? = some error := by
  -- A value has no error, and an error heads the list of faults.
  cases answers with
  | value _ => simp
  | fault first others => simp

/-- A value is as it should be. -/
theorem right (answers : Answers Right faults outcome) {value : α} (found : outcome = .ok value) :
    Right value := by
  cases answers with
  | value right => cases found; exact right
  | fault _ _ => cases found

/-- A value may be put into another form. -/
theorem map {Right' : β → Prop} (answers : Answers Right faults outcome) {form : α → β}
    (kept : ∀ value, Right value → Right' (form value)) : Answers Right' faults (outcome.map form) := by
  -- The form changes the value only, and the faults stay.
  cases answers with
  | value right => exact .value (kept _ right)
  | fault first others => exact .fault first others

/-- Later faults are found only when there is none before them. -/
theorem bind {Right' : β → Prop} {further : List ε} {next : α → Except ε β}
    (answers : Answers Right faults outcome)
    (later : ∀ value, Right value → Answers Right' further (next value)) :
    Answers Right' (faults ++ further) (outcome >>= next) := by
  cases answers with
  | value right => exact later _ right
  -- The error ends the computation, so nothing behind it is looked at.
  | fault first others => exact .fault first (others ++ further)

/-- The faults of some items, one after the other, are those of the whole list. -/
theorem mapM {Right : α → β → Prop} {faults : α → List ε} {build : α → Except ε β} {items : List α}
    (each : ∀ item ∈ items, Answers (Right item) (faults item) (build item)) :
    Answers (List.Forall₂ Right items) (items.flatMap faults) (items.mapM build) := by
  induction items with
  | nil => exact .value .nil
  | cons item others ih =>
    obtain ⟨first, rest⟩ := List.forall_mem_cons.mp each
    rw [List.mapM_cons, List.flatMap_cons]
    refine first.bind fun made right => ?_
    -- What is made of the others comes behind what is made of the first item.
    rw [bind_pure_comp]
    exact (ih rest).map fun _ rights => .cons right rights

/-- What may be missing has no faults if it is. -/
theorem option {Right : α → β → Prop} {faults : α → List RecipeError}
    {build : α → Except RecipeError β} {item? : Option α}
    (each : ∀ item ∈ item?, Answers (Right item) (faults item) (build item)) :
    Answers (Option.Rel Right item?) (item?.toList.flatMap faults) (buildOption build item?) := by
  -- What is missing has no faults to be found.
  cases item? with
  | none => exact .value .none
  | some item =>
    rw [Option.toList_some, List.flatMap_singleton]
    exact (each item rfl).map fun _ right => .some right

end Answers

end Answers

/-- A number from zero to one. -/
def IsUnitFraction (x : Float) : Prop :=
  x.isNaN = false ∧ 0.0 ≤ x ∧ x ≤ 1.0

/-- A finite number that is not negative. -/
def IsThreshold (x : Float) : Prop :=
  x.isFinite = true ∧ 0.0 ≤ x

instance : DecidablePred IsUnitFraction := fun x =>
  inferInstanceAs (Decidable (x.isNaN = false ∧ 0.0 ≤ x ∧ x ≤ 1.0))

instance : DecidablePred IsThreshold := fun x =>
  inferInstanceAs (Decidable (x.isFinite = true ∧ 0.0 ≤ x))

/-- The check of a fraction turns away what is no number, because that is not between any bounds. -/
theorem isUnitFraction_iff (x : Float) : isUnitFraction x = true ↔ IsUnitFraction x := by
  simp only [isUnitFraction, IsUnitFraction, Bool.and_eq_true, decide_eq_true_eq]
  exact ⟨fun within => ⟨Binary64.isNaN_eq_false_of_le within.2, within⟩, And.right⟩

/-- The check of a threshold turns away the negative numbers among the finite ones. -/
theorem isThreshold_iff (x : Float) : isThreshold x = true ↔ IsThreshold x := by
  simp only [isThreshold, IsThreshold, Bool.and_eq_true, Bool.not_eq_true', decide_eq_false_iff_not]
  -- Without the first condition the other two would differ, because nothing is ordered with NaN.
  refine and_congr_right fun finite => ⟨Binary64.le_of_not_lt (by decide) finite, fun least negative => ?_⟩
  exact Binary64.not_le_of_lt negative least

/-- The query that the tree of a text stands for. -/
def ReadsAs (text : String) (query : Query) : Prop :=
  ∃ tree, QueryTree.parse text = .ok tree ∧ tree.toQuery = query

/-- A text that is a query. -/
def IsQuery (text : String) : Prop :=
  ∃ tree, QueryTree.parse text = .ok tree

/-- What is wrong with the text of a query. -/
def queryFaults (text : String) : List RecipeError :=
  match QueryTree.parse text with
  | .ok _ => []
  | .error error => [.query text error]

/-- Nothing is wrong just with the texts that are queries. -/
theorem queryFaults_eq_nil_iff (text : String) : queryFaults text = [] ↔ IsQuery text := by
  unfold queryFaults IsQuery
  cases QueryTree.parse text <;> simp

/-- A query is read as the one that its tree stands for. -/
theorem readQuery_answers (text : String) : Answers (ReadsAs text) (queryFaults text) (readQuery text) := by
  unfold readQuery queryFaults
  cases read : Query.parse text with
  | error error =>
    have parsed : QueryTree.parse text = .error error := by rw [QueryTree.parse, read]; rfl
    rw [parsed]
    exact .fault _ []
  | ok query =>
    have parsed : QueryTree.parse text = .ok (.ofQuery query) := by rw [QueryTree.parse, read]; rfl
    -- Only of a compact query the tree stands for the query that it was laid out from.
    have compact := (Query.ofTokens_ok_iff.mp read).compact
    rw [parsed]
    exact .value ⟨_, parsed, QueryTree.toQuery_ofQuery compact⟩

/-- A fault, unless a condition holds. -/
def faultUnless (condition : Prop) [Decidable condition] (fault : RecipeFault) : List RecipeError :=
  if condition then [] else [.invalid fault]

/-- There is no fault just when the condition holds. -/
@[simp] theorem faultUnless_eq_nil_iff {condition : Prop} [Decidable condition] (fault : RecipeFault) :
    faultUnless condition fault = [] ↔ condition := by
  simp [faultUnless]

/-- A check passes without a fault. -/
theorem RecipeFault.unless_answers (fault : RecipeFault) {check : Bool} {condition : Prop}
    [Decidable condition] (same : check = true ↔ condition) :
    Answers (fun _ => condition) (faultUnless condition fault) (fault.unless check) := by
  unfold RecipeFault.unless faultUnless
  -- The check decides the condition, so the list and the check branch in the same way.
  by_cases holds : condition
  · rw [if_pos (same.mpr holds), if_pos holds]
    exact .value holds
  · rw [if_neg (fun passed => holds (same.mp passed)), if_neg holds]
    exact .fault _ []

/-- A filter that is as the recipe says. -/
def FilterRecipe.Describes (recipe : FilterRecipe) (filter : Query × Int) : Prop :=
  ReadsAs recipe.query filter.1 ∧ filter.2 = recipe.weight

/-- A filter is built as the recipe says. -/
theorem FilterRecipe.build_answers (recipe : FilterRecipe) :
    Answers recipe.Describes (queryFaults recipe.query) recipe.build :=
  (readQuery_answers recipe.query).map fun _ read => ⟨read, rfl⟩

namespace SlotRecipe

/-- What is wrong with a slot, in the order in which it is looked at. -/
def faults (recipe : SlotRecipe) : List RecipeError :=
  faultUnless (IsUnitFraction recipe.activationChance) (.activationChance recipe.activationChance) ++
    (faultUnless (IsThreshold recipe.tieThreshold) (.tieThreshold recipe.tieThreshold) ++
      recipe.filters.flatMap fun filter => queryFaults filter.query)

/-- A slot whose numbers are in range and whose filters are queries. -/
structure Valid (recipe : SlotRecipe) : Prop where
  chance : IsUnitFraction recipe.activationChance
  threshold : IsThreshold recipe.tieThreshold
  filters : ∀ filter ∈ recipe.filters, IsQuery filter.query

/-- A slot that is as the recipe says. The order of the blacklist does not matter, nor how often it names a
card. -/
structure Describes (recipe : SlotRecipe) (slot : Slot) : Prop where
  filters : List.Forall₂ FilterRecipe.Describes recipe.filters slot.filters
  rankings : slot.rankings = recipe.rankings
  quantity : slot.quantity = recipe.quantity
  policy : slot.policy = recipe.policy
  tieBreak : slot.tieBreak = recipe.tieBreak
  tieThreshold : slot.tieThreshold = recipe.tieThreshold
  activationChance : slot.activationChance = recipe.activationChance
  blacklist : ∀ card, card ∈ slot.blacklist ↔ card ∈ recipe.blacklist

/-- Nothing is wrong just with valid slots. -/
theorem faults_eq_nil_iff (recipe : SlotRecipe) : recipe.faults = [] ↔ recipe.Valid := by
  simp only [faults, List.append_eq_nil_iff, faultUnless_eq_nil_iff, List.flatMap_eq_nil_iff,
    queryFaults_eq_nil_iff]
  exact ⟨fun ⟨chance, threshold, filters⟩ => ⟨chance, threshold, filters⟩,
    fun ⟨chance, threshold, filters⟩ => ⟨chance, threshold, filters⟩⟩

/-- A slot is built as the recipe says. -/
theorem build_answers (recipe : SlotRecipe) : Answers recipe.Describes recipe.faults recipe.build := by
  -- The faults come in the order of the checks, so that the answers of the checks follow one another.
  refine (RecipeFault.unless_answers _ (isUnitFraction_iff _)).bind fun _ _ => ?_
  refine (RecipeFault.unless_answers _ (isThreshold_iff _)).bind fun _ _ => ?_
  have filters := Answers.mapM fun filter (_ : filter ∈ recipe.filters) => filter.build_answers
  rw [bind_pure_comp]
  exact filters.map fun built read => ⟨read, rfl, rfl, rfl, rfl, rfl, rfl, fun _ => Iff.rfl⟩

end SlotRecipe

/-- Assembling finds no fault in a setup with slots and a range of sizes. -/
theorem Assembler.assemble_setup (assembler : Assembler) (slotted : assembler.slots ≠ [])
    (ordered : assembler.settings.minTotal ≤ assembler.settings.maxTotal) (records : List Record)
    (source : Random.Source) :
    (assembler.assemble records source).1 ≠ .error .noSlots ∧ ∀ minTotal maxTotal,
      (assembler.assemble records source).1 ≠ .error (.invalidDeckSize minTotal maxTotal) := by
  rw [assemble_eq slotted ordered]
  obtain ⟨_, last, -, ends⟩ := assembler.fill_ends records source
  -- Neither a deck that stalls nor a slot that fails is a fault of the setup.
  generalize assembler.fill (start records source) = outcome at ends
  cases ends with
  | filled _ => simp [Except.map]
  | stalled _ _ => simp [Except.map]
  | failed _ _ => simp [Except.map]

namespace Recipe

/-- What is wrong with a recipe, in the order in which it is looked at. -/
def faults (recipe : Recipe) : List RecipeError :=
  let settings := recipe.settings
  faultUnless (recipe.slots ≠ []) .noSlots ++
    (faultUnless (settings.minTotal ≤ settings.maxTotal)
        (.sizesReversed settings.minTotal settings.maxTotal) ++
      (faultUnless (IsUnitFraction settings.trimFraction) (.trimFraction settings.trimFraction) ++
        (recipe.slots.flatMap SlotRecipe.faults ++
          (recipe.remainder.toList.flatMap SlotRecipe.faults ++
            recipe.trim.toList.flatMap queryFaults))))

/-- A recipe with slots and settings in range, each slot of which is valid, and the trim is a query. -/
structure Valid (recipe : Recipe) : Prop where
  slotted : recipe.slots ≠ []
  ordered : recipe.settings.minTotal ≤ recipe.settings.maxTotal
  fraction : IsUnitFraction recipe.settings.trimFraction
  slots : ∀ slot ∈ recipe.slots, slot.Valid
  remainder : ∀ slot ∈ recipe.remainder, slot.Valid
  trim : ∀ text ∈ recipe.trim, IsQuery text

/-- An assembler that is as the recipe says. -/
structure Describes (recipe : Recipe) (assembler : Assembler) : Prop where
  settings : assembler.settings = recipe.settings
  slots : List.Forall₂ SlotRecipe.Describes recipe.slots assembler.slots
  remainder : Option.Rel SlotRecipe.Describes recipe.remainder assembler.remainder
  trim : Option.Rel ReadsAs recipe.trim assembler.trim

/-- Nothing is wrong just with valid recipes. -/
theorem faults_eq_nil_iff (recipe : Recipe) : recipe.faults = [] ↔ recipe.Valid := by
  simp only [faults, List.append_eq_nil_iff, faultUnless_eq_nil_iff, List.flatMap_eq_nil_iff,
    SlotRecipe.faults_eq_nil_iff, queryFaults_eq_nil_iff, Option.mem_toList]
  exact ⟨fun ⟨slotted, ordered, fraction, slots, remainder, trim⟩ =>
      ⟨slotted, ordered, fraction, slots, remainder, trim⟩,
    fun ⟨slotted, ordered, fraction, slots, remainder, trim⟩ =>
      ⟨slotted, ordered, fraction, slots, remainder, trim⟩⟩

/-- An assembler is built as the recipe says. -/
theorem build_answers (recipe : Recipe) : Answers recipe.Describes recipe.faults recipe.build := by
  -- Every step of the build passes on what is known of the steps before it.
  refine (RecipeFault.unless_answers _ (by simp)).bind fun _ _ => ?_
  refine (RecipeFault.unless_answers _ (by simp)).bind fun _ _ => ?_
  refine (RecipeFault.unless_answers _ (isUnitFraction_iff _)).bind fun _ _ => ?_
  refine (Answers.mapM fun slot _ => slot.build_answers).bind fun slots described => ?_
  refine (Answers.option fun slot _ => slot.build_answers).bind fun remainder rest => ?_
  have trim := Answers.option fun text (_ : text ∈ recipe.trim) => readQuery_answers text
  rw [bind_pure_comp]
  exact trim.map fun filter read => ⟨rfl, described, rest, read⟩

/-- A recipe is built just if it is valid, and otherwise the first of its faults is reported. What is built is as
the recipe says, and assembling with it finds no fault in the setup. -/
theorem build_faithful (recipe : Recipe) :
    ((∃ assembler, recipe.build = .ok assembler) ↔ recipe.Valid) ∧
      (∀ error, recipe.build = .error error ↔ recipe.faults.head? = some error) ∧
      ∀ assembler, recipe.build = .ok assembler → recipe.Describes assembler ∧
        ∀ records source, (assembler.assemble records source).1 ≠ .error .noSlots ∧
          ∀ minTotal maxTotal,
            (assembler.assemble records source).1 ≠ .error (.invalidDeckSize minTotal maxTotal) := by
  have answers := recipe.build_answers
  refine ⟨answers.ok_iff.trans recipe.faults_eq_nil_iff, answers.error_iff, fun assembler built => ?_⟩
  -- Something is built, so no check has failed, and those of the setup are among them.
  have valid : recipe.Valid := recipe.faults_eq_nil_iff.mp (answers.ok_iff.mp ⟨assembler, built⟩)
  have described : recipe.Describes assembler := answers.right built
  refine ⟨described, assembler.assemble_setup ?_ ?_⟩
  · -- There are as many slots as the recipe has.
    intro empty
    have slots := described.slots
    rw [empty, List.forall₂_nil_right_iff] at slots
    exact valid.slotted slots
  · rw [described.settings]
    exact valid.ordered

/-- A recipe with a filter, a remainder slot and a trim. -/
def festive : Recipe where
  slots := [{ filters := [⟨"[t = elf] && [cmc <= 3]", 10⟩], blacklist := [⟨7⟩, ⟨7⟩] }]
  remainder := some { policy := .mostPoints }
  trim := some "t = land"

/-- This recipe with another slot, the second filter of which is no query. The trim is no query either. -/
def careless : Recipe :=
  { festive with
    slots := festive.slots ++ [{ filters := [⟨"c = red", 1⟩, ⟨"hue = red", 5⟩] }]
    trim := some "" }

/-- Of these two recipes one is built, and the fault of the other is that of the filter. -/
theorem build_faithful_festive :
    (∃ assembler, festive.build = .ok assembler ∧ festive.Describes assembler ∧
      ∀ records source, (assembler.assemble records source).1 ≠ .error .noSlots) ∧
      careless.build = .error (.query "hue = red" (.unknownField "hue")) := by
  -- The numbers are those of plain slots and settings in both recipes.
  have certain : IsUnitFraction 1.0 := by decide
  have never : IsUnitFraction 0.0 := by decide
  have exact : IsThreshold 0.0 := by decide
  have elves : queryFaults "[t = elf] && [cmc <= 3]" = [] := by rfl
  have lands : queryFaults "t = land" = [] := by rfl
  have reds : queryFaults "c = red" = [] := by rfl
  have hues : queryFaults "hue = red" = [.query "hue = red" (.unknownField "hue")] := by rfl
  have valid : festive.Valid := by
    refine festive.faults_eq_nil_iff.mp ?_
    simp [festive, faults, SlotRecipe.faults, faultUnless, certain, never, exact, elves, lands]
  have first : careless.faults.head? = some (.query "hue = red" (.unknownField "hue")) := by
    simp [careless, festive, faults, SlotRecipe.faults, faultUnless, certain, never, exact, elves, reds,
      hues]
  obtain ⟨assembler, built⟩ := (build_faithful festive).1.mpr valid
  obtain ⟨described, sound⟩ := (build_faithful festive).2.2 assembler built
  exact ⟨⟨assembler, built, described, fun records source => (sound records source).1⟩,
    ((build_faithful careless).2.1 _).mpr first⟩

end Recipe

end Decksmith
