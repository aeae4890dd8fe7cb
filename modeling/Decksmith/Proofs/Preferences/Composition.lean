import Decksmith.Preferences.Generate
import Decksmith.Proofs.Deck.Copies
import Decksmith.Proofs.Query.Duality
import Decksmith.Proofs.Ranking
import Mathlib.Data.List.Nodup

/-! What a deck made from preferences consists of: basic lands, and cards that each category draws. -/

namespace Decksmith

/-- Every group in the query of a category has operands. -/
theorem Category.query_full (category : Category) : category.query.Full := by
  -- Each category is a test or a group that is written out with its operands.
  cases category with
  | creatures => exact .test _
  | otherPermanents =>
    have kinds : (Query.group .union
        [hasType "Enchantment", hasType "Artifact", hasType "Planeswalker"]).Full :=
      .group .union (by simp) (by simpa [hasType] using ⟨.test _, .test _, .test _⟩)
    exact .group .intersect (by simp) (by simpa [lacksType] using ⟨.test _, kinds⟩)
  | nonpermanents => exact .group .union (by simp) (by simpa [hasType] using ⟨.test _, .test _⟩)

/-- Every group in the query that rejects colors has operands. -/
theorem Query.colorExclusion?_full {colors : List Color} {exclusion : Query}
    (excluded : colorExclusion? colors = some exclusion) : exclusion.Full := by
  unfold colorExclusion? at excluded
  split at excluded
  · cases excluded
  · rename_i some
    cases excluded
    refine .ofOperands (by simpa using some) fun query member => ?_
    -- Each of the operands rejects one color.
    obtain ⟨color, -, rfl⟩ := List.mem_map.mp member
    exact .test _

namespace Preferences

/-- Whether a card is of a category and the colors allow it. -/
def fits (preferences : Preferences) (mode : CaseMode) (category : Category) (record : Record) : Bool :=
  category.query.holds mode record &&
    (Query.colorExclusion? preferences.colors).all (Query.holds mode record)

/-- Whether a category can draw a card: the card fits, and its rank is a finite number. -/
def suits (preferences : Preferences) (mode : CaseMode) (category : Category) (record : Record) : Bool :=
  preferences.fits mode category record && (record.sortField .edhrecRank).asNumber?.any Float.isFinite

/-- What a category draws: different cards that suit it, as many as its share asks for and as there are. -/
structure Draws (preferences : Preferences) (mode : CaseMode) (records : List Record)
    (category : Category) (drawn : List Record) : Prop where
  suitable : ∀ record ∈ drawn, record ∈ records ∧ preferences.suits mode category record = true
  distinct : (drawn.map Record.id).Nodup
  length : drawn.length =
    min (preferences.ratios.count (category.share preferences.ratios) preferences.deckSize)
      (records.countP (preferences.suits mode category))

variable (preferences : Preferences) (mode : CaseMode) {records : List Record}

/-- The candidates of a category are the records that fit it. -/
theorem select_categoryQuery (category : Category) :
    (preferences.categoryQuery category).select mode records =
      records.filter (preferences.fits mode category) := by
  have full : (preferences.categoryQuery category).Full ∧ ∀ record : Record,
      (preferences.categoryQuery category).holds mode record =
        preferences.fits mode category record := by
    unfold categoryQuery fits
    -- The colors reject nothing, or what they reject is a second operand.
    split
    · rename_i unlimited
      exact ⟨category.query_full, by simp [unlimited]⟩
    · rename_i exclusion excluded
      refine ⟨.group .intersect (by simp) ?_, by simp [excluded]⟩
      simpa using ⟨category.query_full, Query.colorExclusion?_full excluded⟩
  rw [Query.select_eq_filter]
  refine List.filter_congr fun record _ => ?_
  rw [full.1.proper.marks_eq_holds, full.2]

/-- An order is drawn for the records that have a score, whatever is drawn. -/
theorem map_record_jittered (scores : List (CardId × Float)) (candidates : List Record)
    (source : Random.Source) :
    (jittered scores candidates source).1.map Ranked.record =
      candidates.filter fun record => (Ranking.lastScore? scores record.id).isSome := by
  induction candidates generalizing source with
  | nil => rfl
  | cons record others ih =>
    rw [jittered, List.filter_cons]
    -- A record without a score is passed over, and any other one keeps its place.
    cases Ranking.lastScore? scores record.id with
    | none => exact ih source
    | some score => exact congrArg (record :: ·) (ih _)

/-- Among different cards, an order is drawn for those whose rank is a finite number. -/
theorem map_record_jittered_scores {candidates : List Record}
    (distinct : (candidates.map Record.id).Nodup) (source : Random.Source) :
    (jittered (ranking.scores candidates) candidates source).1.map Ranked.record =
      candidates.filter fun record => (record.sortField .edhrecRank).asNumber?.any Float.isFinite := by
  rw [map_record_jittered]
  refine List.filter_congr fun record member => ?_
  rw [Ranking.isSome_lastScore?_scores distinct member, ranking]
  -- Having a score comes down to having a rank, which is then a finite number.
  cases rank : (record.sortField .edhrecRank).asNumber? with
  | none => rfl
  | some value => simp [FieldValue.isFinite_of_asNumber? rank]

/-- The candidates of a category that have a score, in the order in which they are taken. -/
def ordered (preferences : Preferences) (mode : CaseMode) (records : List Record) (category : Category)
    (source : Random.Source) : List Record :=
  let candidates := (preferences.categoryQuery category).select mode records
  (sorted (jittered (ranking.scores candidates) candidates source).1).map Ranked.record

/-- In whatever order, all cards that suit a category are there, and no others. -/
theorem ordered_perm (distinct : (records.map Record.id).Nodup) (category : Category)
    (source : Random.Source) :
    (preferences.ordered mode records category source).Perm
      (records.filter (preferences.suits mode category)) := by
  have apart : ((records.filter (preferences.fits mode category)).map Record.id).Nodup :=
    distinct.sublist (List.filter_sublist.map Record.id)
  -- Sorting only permutes what an order has been drawn for.
  refine ((List.mergeSort_perm _ _).map Ranked.record).trans (.of_eq ?_)
  rw [select_categoryQuery, map_record_jittered_scores apart, List.filter_filter]
  exact List.filter_congr fun record _ => Bool.and_comm _ _

/-- A category takes the first cards of its order, as many as its share asks for. -/
def taken (preferences : Preferences) (mode : CaseMode) (records : List Record) (category : Category)
    (source : Random.Source) : List Record :=
  (preferences.ordered mode records category source).take
    (preferences.ratios.count (category.share preferences.ratios) preferences.deckSize)

/-- What a category takes is drawn from the cards that suit it. -/
theorem taken_draws (distinct : (records.map Record.id).Nodup) (category : Category)
    (source : Random.Source) :
    preferences.Draws mode records category (preferences.taken mode records category source) := by
  have perm := preferences.ordered_perm mode distinct category source
  exact {
    suitable := fun record member =>
      List.mem_filter.mp (perm.mem_iff.mp (List.mem_of_mem_take member))
    distinct := by
      -- Neither another order nor leaving cards out makes two of them the same.
      have all : ((preferences.ordered mode records category source).map Record.id).Nodup :=
        (perm.map Record.id).nodup_iff.mpr (distinct.sublist (List.filter_sublist.map Record.id))
      exact all.sublist ((List.take_sublist _ _).map Record.id)
    length := by rw [taken, List.length_take, perm.length_eq, List.countP_eq_length_filter] }

/-- A category adds one copy of each card that it takes. -/
theorem addCategory_fst (deck : Deck) (source : Random.Source) (category : Category) :
    (preferences.addCategory mode records deck source category).1 =
      ((preferences.taken mode records category source).map Record.id).foldl
        (fun deck card => deck.add card 1) deck := by
  rw [addCategory, taken, ordered, ← List.map_take, List.map_map, List.foldl_map]
  rfl

/-- Filling a category keeps the deck well-formed. -/
theorem addCategory_wellFormed {deck : Deck} (formed : deck.WellFormed) (source : Random.Source)
    (category : Category) :
    (preferences.addCategory mode records deck source category).1.WellFormed := by
  rw [addCategory_fst]
  exact (Deck.quantity_foldl_add formed 1 _).1

/-- Filling a category raises the quantity of the cards that it draws by one. -/
theorem addCategory_quantity (distinct : (records.map Record.id).Nodup) {deck : Deck}
    (formed : deck.WellFormed) (source : Random.Source) (category : Category) :
    ∃ drawn, preferences.Draws mode records category drawn ∧
      (preferences.addCategory mode records deck source category).1.WellFormed ∧
      ∀ card, (preferences.addCategory mode records deck source category).1.quantity card =
        deck.quantity card + if card ∈ drawn.map Record.id then 1 else 0 := by
  have draws := preferences.taken_draws mode distinct category source
  obtain ⟨kept, counted⟩ := Deck.quantity_foldl_add formed 1
    ((preferences.taken mode records category source).map Record.id)
  rw [addCategory_fst]
  refine ⟨_, draws, kept, fun card => ?_⟩
  -- Cards that are drawn are different, so each of them comes once.
  rw [counted, Nat.one_mul, draws.distinct.count]

/-- Filling different categories raises the quantity of a card once for each category that draws it. -/
theorem addCategories_quantity (distinct : (records.map Record.id).Nodup) {categories : List Category}
    (different : categories.Nodup) {deck : Deck} (formed : deck.WellFormed) (source : Random.Source) :
    ∃ drawn : Category → List Record,
      (∀ category ∈ categories, preferences.Draws mode records category (drawn category)) ∧
      ∀ card, (categories.foldl
          (fun made category => preferences.addCategory mode records made.1 made.2 category)
          (deck, source)).1.quantity card =
        deck.quantity card + categories.countP fun category => card ∈ (drawn category).map Record.id := by
  -- Each category starts from the deck and the source that the ones before it have left.
  induction categories generalizing deck source with
  | nil => exact ⟨fun _ => [], by simp, by simp⟩
  | cons category others ih =>
    obtain ⟨fresh, apart⟩ := List.nodup_cons.mp different
    obtain ⟨first, draws, kept, added⟩ :=
      preferences.addCategory_quantity mode distinct formed source category
    obtain ⟨drawn, rest, counted⟩ := ih apart kept
      (preferences.addCategory mode records deck source category).2
    -- What the other categories draw is left as it is, since the category is not among them.
    have unchanged : ∀ other ∈ others, Function.update drawn category first other = drawn other := by
      intro other member
      have away : other ≠ category := fun same => fresh (same ▸ member)
      exact Function.update_of_ne away _ _
    refine ⟨Function.update drawn category first, ?_, fun card => ?_⟩
    · refine List.forall_mem_cons.mpr ⟨by simpa using draws, fun other member => ?_⟩
      rw [unchanged other member]
      exact rest other member
    · have same : (others.countP fun other =>
            card ∈ (Function.update drawn category first other).map Record.id) =
          others.countP fun other => card ∈ (drawn other).map Record.id :=
        List.countP_congr fun other member => by rw [unchanged other member]
      rw [List.foldl_cons, counted, added, List.countP_cons, same, Function.update_self]
      simp only [decide_eq_true_eq]
      omega

/-- The lands are shared out evenly among the colors. -/
theorem landsEach_eq :
    preferences.landsEach =
      preferences.ratios.count preferences.ratios.lands preferences.deckSize /
        max 1 preferences.colors.length := by
  unfold landsEach
  -- Without colors a single land takes the whole share, and with colors there is one at least.
  cases preferences.colors with
  | nil => simp
  | cons color others => simp

/-- A name without a record adds nothing, so it may be left out beforehand. -/
theorem foldl_addBasic (records : List Record) (copies : Nat) (names : List String) :
    names.foldl (addBasic records copies) Deck.empty =
      (names.filterMap fun name => (records.find? (isNamed name)).map Record.id).foldl
        (fun deck card => deck.add card copies) Deck.empty := by
  -- Both folds do the same for each name, which is nothing where no record has it.
  rw [List.foldl_filterMap]
  congr 1
  funext deck name
  rw [addBasic]
  cases records.find? (isNamed name) <;> rfl

/-- Basic lands come in once for each name that leads to them. -/
theorem addBasics_quantity (records : List Record) (copies : Nat) (names : List String) :
    (names.foldl (addBasic records copies) Deck.empty).WellFormed ∧
    ∀ card, (names.foldl (addBasic records copies) Deck.empty).quantity card =
      copies * names.countP fun name => (records.find? (isNamed name)).map Record.id = some card := by
  -- Each card gets the copies for as many names as lead to it.
  obtain ⟨formed, counted⟩ := Deck.quantity_foldl_add Deck.empty_wellFormed copies
    (names.filterMap fun name => (records.find? (isNamed name)).map Record.id)
  rw [foldl_addBasic]
  refine ⟨formed, fun card => ?_⟩
  rw [counted, Deck.quantity_empty, Nat.zero_add, List.count_filterMap]
  congr 2
  funext name
  exact Bool.beq_eq_decide_eq _ _

/-- A deck that is made from preferences is well-formed. -/
theorem generate_wellFormed (records : List Record) (source : Random.Source) :
    (preferences.generate mode records source).1.WellFormed := by
  have lands := (addBasics_quantity records preferences.landsEach preferences.basicNames).1
  rw [generate]
  generalize preferences.basicNames.foldl (addBasic records preferences.landsEach) Deck.empty = deck
    at lands ⊢
  -- The categories are filled one after the other, from whatever the ones before have made.
  induction Category.all generalizing deck source with
  | nil => exact lands
  | cons category others ih =>
    exact ih _ _ (preferences.addCategory_wellFormed mode lands source category)

/-- How many copies of a card come in as basic lands: the share of one land for each basic name of which it
is the first record. -/
def basicCopies (preferences : Preferences) (records : List Record) (id : CardId) : Nat :=
  preferences.landsEach * preferences.basicNames.countP
    fun name => (records.find? (isNamed name)).map Record.id = some id

/-- Besides its basic lands, a deck has one copy of a card for every category that draws it. -/
theorem generate_quantity (distinct : (records.map Record.id).Nodup) (source : Random.Source) :
    ∃ drawn : Category → List Record,
      (∀ category, preferences.Draws mode records category (drawn category)) ∧
      ∀ card, (preferences.generate mode records source).1.quantity card =
        preferences.basicCopies records card +
          Category.all.countP fun category => card ∈ (drawn category).map Record.id := by
  -- The lands make the deck from which the categories go on.
  obtain ⟨formed, lands⟩ := addBasics_quantity records preferences.landsEach preferences.basicNames
  have different : Category.all.Nodup := by decide
  obtain ⟨drawn, draws, counted⟩ :=
    preferences.addCategories_quantity mode distinct different formed source
  refine ⟨drawn, fun category => draws category (by cases category <;> decide), fun card => ?_⟩
  rw [generate, counted, lands, basicCopies]

/-- The deck has the share of lands for every basic name that is found, and one copy of a card for every
category that draws it. -/
theorem generate_composed (distinct : (records.map Record.id).Nodup) (source : Random.Source) :
    ∃ drawn : Category → List Record,
      (∀ category, preferences.Draws mode records category (drawn category)) ∧
      ∀ card, (preferences.generate mode records source).1.quantity card =
        preferences.ratios.count preferences.ratios.lands preferences.deckSize /
              max 1 preferences.colors.length *
            preferences.basicNames.countP
              (fun name => (records.find? (isNamed name)).map Record.id = some card) +
          Category.all.countP fun category => card ∈ (drawn category).map Record.id := by
  obtain ⟨drawn, draws, counted⟩ := preferences.generate_quantity mode distinct source
  refine ⟨drawn, draws, fun card => ?_⟩
  rw [counted, basicCopies, landsEach_eq]

/-- A green record with a name, a type and a rank. -/
def ranked (number : UInt32) (name : String) (type : String) (rank : FieldValue) : Record where
  id := ⟨number⟩
  field
    | .name => .text name
    | .types => .list [type]
    | .colorIdentity => .list ["{G}"]
    | _ => .absent
  sortField _ := rank

/-- A basic land, which has no rank. -/
def forest : Record := ranked 1 "Forest" "Land" .absent

/-- A creature with a rank. -/
def mystic : Record := ranked 2 "Elvish Mystic" "Creature" (.number 100.0)

/-- A green deck whose color is listed twice. -/
def twiceGreen : Preferences := { colors := [.green, .green] }

/-- Both entries for the color bring half of the lands, and the creature is drawn once. -/
theorem generate_composed_twiceGreen :
    ([forest, mystic].map Record.id).Nodup ∧
    (twiceGreen.generate .strict [forest, mystic] (.ofSeed 7)).1.quantity forest.id = 20 ∧
    (twiceGreen.generate .strict [forest, mystic] (.ofSeed 7)).1.quantity mystic.id = 1 := by
  have distinct : ([forest, mystic].map Record.id).Nodup := by decide
  obtain ⟨drawn, draws, counted⟩ := twiceGreen.generate_composed .strict distinct (.ofSeed 7)
  -- Neither card is of another kind than creatures and lands.
  have idle (category : Category) (other : category ≠ .creatures) : drawn category = [] := by
    have empty : [forest, mystic].countP (twiceGreen.suits .strict category) = 0 := by
      cases category with
      | creatures => exact absurd rfl other
      | otherPermanents => decide +kernel
      | nonpermanents => decide +kernel
    rw [← List.length_eq_zero_iff, (draws category).length, empty, Nat.min_zero]
  have creature : drawn .creatures = [mystic] := by
    have one : (drawn .creatures).length = 1 := by
      rw [(draws .creatures).length]
      decide +kernel
    obtain ⟨record, single⟩ := List.length_eq_one_iff.mp one
    obtain ⟨member, suits⟩ := (draws .creatures).suitable record (by simp [single])
    -- The land is no creature, so the card is the other one.
    have land : twiceGreen.suits .strict .creatures forest = false := by decide +kernel
    obtain rfl | rfl := by simpa using member
    · simp [land] at suits
    · exact single
  have lands : twiceGreen.ratios.count twiceGreen.ratios.lands twiceGreen.deckSize /
      max 1 twiceGreen.colors.length = 10 := by decide +kernel
  -- The creature comes in with the one category that draws it.
  have filled (card : CardId) :
      (Category.all.countP fun category => card ∈ (drawn category).map Record.id) =
        if mystic.id = card then 1 else 0 := by
    simp [Category.all, List.countP_cons, creature, idle .otherPermanents nofun,
      idle .nonpermanents nofun]
  refine ⟨distinct, ?_, ?_⟩
  · rw [counted, lands, filled]
    decide
  · rw [counted, lands, filled]
    decide

end Preferences

end Decksmith
