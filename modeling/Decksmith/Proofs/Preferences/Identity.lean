import Decksmith.Card.Printed
import Decksmith.Proofs.Preferences.Composition
import Decksmith.Proofs.Query.Arena

/-! Color identity: apart from basic lands, a deck that is made from preferences has cards of its colors
only. -/

namespace Decksmith

theorem Color.mem_all (color : Color) : color ∈ all := by
  cases color <;> decide

/-- Mana symbols are told apart in either mode. -/
theorem Color.looselyEqual_symbol (a b : Color) (mode : CaseMode) :
    looselyEqual a.symbol b.symbol mode = decide (a = b) := by
  cases a <;> cases b <;> cases mode <;> decide +kernel

/-- A mana symbol has no blanks around it. -/
theorem Color.trim_symbol (color : Color) :
    String.ofList (Text.trim color.symbol.toList) = color.symbol := by
  cases color <;> decide +kernel

namespace Query

variable {mode : CaseMode} {colors : List Color}

/-- A group of some operands holds where all of them do, if it is an intersection. -/
theorem holds_ofOperands_intersect (operands : List Query) (record : Record) :
    (ofOperands .intersect operands).holds mode record = operands.all (holds mode record) := by
  -- Without operands the intersection holds, and a single operand stands for itself.
  match operands with
  | [] => exact holds_intersect record []
  | [query] => simp [ofOperands]
  | first :: second :: others => exact holds_intersect record (first :: second :: others)

/-- The test that rejects a color holds of the cards that do not have it in their identity. -/
theorem holds_rejecting (color : Color) (card : Card) :
    (test (.trimmed .colorIdentity .none .notEqual color.symbol.toList)).holds mode card.toRecord =
      !card.colorIdentity.contains color := by
  have items : (test (.trimmed .colorIdentity .none .notEqual color.symbol.toList)).holds mode
      card.toRecord = (card.colorIdentity.map Color.symbol).all fun symbol =>
        !looselyEqual symbol (String.ofList (Text.trim color.symbol.toList)) mode := by
    rw [holds]
    rfl
  rw [items, Color.trim_symbol, List.all_map, Bool.eq_iff_iff]
  -- Every symbol of the identity is to be another one.
  simp only [List.all_eq_true, Function.comp_apply, Color.looselyEqual_symbol, Bool.not_eq_true',
    decide_eq_false_iff_not, List.contains_eq_mem]
  exact ⟨fun apart member => apart color member rfl, fun absent other member same => absent (same ▸ member)⟩

/-- Nothing is excluded just when all colors are listed. -/
theorem colorExclusion?_eq_none_iff : colorExclusion? colors = none ↔ ∀ color, color ∈ colors := by
  -- No color is left to be excluded.
  have none : colorExclusion? colors = none ↔
      (Color.all.filter fun color => !colors.contains color) = [] := by
    unfold colorExclusion?
    split
    · rename_i empty
      exact iff_of_true rfl empty
    · rename_i some
      exact iff_of_false nofun some
  rw [none, List.filter_eq_nil_iff]
  constructor
  -- There are five colors, and all of them are looked at.
  · intro listed color
    simpa using listed color color.mem_all
  · intro listed color _
    simpa using listed color

/-- An exclusion of colors holds of the cards that have no other colors than the listed ones. -/
theorem holds_colorExclusion? {exclusion : Query} (excluded : colorExclusion? colors = some exclusion)
    (card : Card) : exclusion.holds mode card.toRecord = true ↔ card.colorIdentity ⊆ colors := by
  have tests : exclusion.holds mode card.toRecord =
      (Color.all.filter fun color => !colors.contains color).all fun color =>
        !card.colorIdentity.contains color := by
    unfold colorExclusion? at excluded
    split at excluded
    · cases excluded
    · cases excluded
      rw [holds_ofOperands_intersect, List.all_map]
      exact congrArg (List.all _) (funext fun color => holds_rejecting color card)
  rw [tests, List.all_eq_true]
  constructor
  · intro rejected color member
    -- A color of the card that is not listed would be among those that are rejected.
    by_contra unlisted
    have := rejected color (List.mem_filter.mpr ⟨color.mem_all, by simpa using unlisted⟩)
    simp [member] at this
  · intro within color member
    -- What is rejected is not listed, so the card does not have it.
    have unlisted : color ∉ colors := by simpa using (List.mem_filter.mp member).2
    simpa using fun own => unlisted (within own)

/-- The operands of an exclusion are single tests. -/
theorem colorExclusion?_compact {exclusion : Query} (excluded : colorExclusion? colors = some exclusion) :
    exclusion.Compact := by
  unfold colorExclusion? at excluded
  split at excluded
  · cases excluded
  · cases excluded
    -- Every operand is a test, whether there is one or several.
    refine .ofOperands fun query member => ?_
    obtain ⟨color, -, rfl⟩ := List.mem_map.mp member
    exact .test _

end Query

namespace Preferences

variable (preferences : Preferences) (mode : CaseMode)

/-- A card that fits a category has no other colors than those of the preferences. -/
theorem identity_of_fits {category : Category} {card : Card}
    (fitting : preferences.fits mode category card.toRecord = true) :
    card.colorIdentity ⊆ preferences.colors := by
  obtain ⟨-, allowed⟩ := Bool.and_eq_true_iff.mp fitting
  -- Without an exclusion all colors are listed, those of the card among them.
  cases excluded : Query.colorExclusion? preferences.colors with
  | none => exact fun color _ => Query.colorExclusion?_eq_none_iff.mp excluded color
  | some exclusion =>
    rw [excluded, Option.all_some] at allowed
    exact (Query.holds_colorExclusion? excluded card).mp allowed

/-- Whatever is in a deck beyond the basic lands has been drawn by a category. -/
theorem drawn_of_basicCopies_lt {records : List Record} (distinct : (records.map Record.id).Nodup)
    (source : Random.Source) {id : CardId}
    (more : preferences.basicCopies records id < (preferences.generate mode records source).1.quantity id) :
    ∃ record ∈ records, record.id = id ∧ ∃ category, preferences.fits mode category record = true := by
  obtain ⟨drawn, draws, counted⟩ := preferences.generate_quantity mode distinct source
  rw [counted] at more
  -- The further copies come from a category, and what it draws suits it.
  have some : 0 < Category.all.countP fun category => id ∈ (drawn category).map Record.id := by omega
  obtain ⟨category, -, member⟩ := List.countP_pos_iff.mp some
  obtain ⟨record, here, same⟩ := List.mem_map.mp (of_decide_eq_true member)
  obtain ⟨known, suitable⟩ := (draws category).suitable record here
  exact ⟨record, known, same, category, (Bool.and_eq_true_iff.mp suitable).1⟩

/-- Basic lands are among the records. -/
theorem mem_of_basicCopies {records : List Record} {id : CardId}
    (some : 0 < preferences.basicCopies records id) : ∃ record ∈ records, record.id = id := by
  obtain ⟨name, -, found⟩ := List.countP_pos_iff.mp (Nat.pos_of_mul_pos_left some)
  obtain ⟨record, first, same⟩ := Option.map_eq_some_iff.mp (of_decide_eq_true found)
  exact ⟨record, List.mem_of_find?_eq_some first, same⟩

/-- Colors exclude nothing just when all five are listed, and otherwise what they exclude are the cards with
another color in their identity. So a deck has, apart from its basic lands, only cards within the colors. -/
theorem generate_within_colors (colors : List Color) (mode : CaseMode) :
    (Query.colorExclusion? colors = none ↔ ∀ color, color ∈ colors) ∧
    (∀ exclusion, Query.colorExclusion? colors = some exclusion → ∀ card : Card,
      ((QueryTree.ofQuery exclusion).holds mode card.toRecord = true ↔ card.colorIdentity ⊆ colors) ∧
      ((QueryTree.ofQuery exclusion).mask mode [card.toRecord] = [true] ↔
        card.colorIdentity ⊆ colors)) ∧
    ∀ preferences : Preferences, preferences.colors = colors →
      ∀ cards : List Card, (cards.map Card.id).Nodup → ∀ source : Random.Source,
        let records := cards.map Card.toRecord
        let deck := (preferences.generate mode records source).1
        ∀ id ∈ deck.cards, ∃ card ∈ cards, card.id = id ∧
          (preferences.basicCopies records id < deck.quantity id → card.colorIdentity ⊆ colors) := by
  refine ⟨Query.colorExclusion?_eq_none_iff, fun exclusion excluded card => ?_, ?_⟩
  · -- The tree sees the exclusion, and it has no intersection of nothing to be read in two ways.
    have compact := Query.colorExclusion?_compact excluded
    obtain ⟨alone, listed⟩ := @QueryTree.evaluate_ofQuery mode _ compact
    have proper := (Query.colorExclusion?_full excluded).proper
    rw [alone, listed, proper.mask_eq_map_holds, List.map_singleton, List.singleton_inj]
    exact ⟨Query.holds_colorExclusion? excluded card, Query.holds_colorExclusion? excluded card⟩
  · rintro preferences rfl cards distinct source records deck id member
    have formed : deck.WellFormed := preferences.generate_wellFormed mode records source
    have same : records.map Record.id = cards.map Card.id := by
      rw [List.map_map]
      rfl
    have some : 0 < deck.quantity id :=
      Nat.pos_of_ne_zero fun none => formed.quantity_eq_zero_iff.mp none member
    -- The deck has copies of the card, from a category or as a basic land.
    by_cases more : preferences.basicCopies records id < deck.quantity id
    · -- Something beyond the basic lands has been drawn, and then the colors allow it.
      obtain ⟨record, known, identical, category, fitting⟩ :=
        preferences.drawn_of_basicCopies_lt mode (same ▸ distinct) source more
      obtain ⟨card, here, rfl⟩ := List.mem_map.mp known
      exact ⟨card, here, identical, fun _ => preferences.identity_of_fits mode fitting⟩
    · -- Otherwise all copies are basic lands, of a record that has been found by its name.
      have basic : 0 < preferences.basicCopies records id := by omega
      obtain ⟨record, known, identical⟩ := preferences.mem_of_basicCopies basic
      obtain ⟨card, here, rfl⟩ := List.mem_map.mp known
      exact ⟨card, here, identical, fun beyond => absurd beyond more⟩

/-- A creature of one color, with a rank. -/
def creature (number : UInt32) (name : String) (color : Color) : Card where
  id := ⟨number⟩
  name := name
  typeLine := "Creature"
  colorIdentity := [color]
  edhrecRank := some 100

/-- A basic land of each of two colors, and two creatures. -/
def binder : List Card :=
  [{ id := ⟨1⟩, name := "Forest", colorIdentity := [.green] },
   { id := ⟨2⟩, name := "Mountain", colorIdentity := [.red] },
   creature 3 "Goblin Guide" .red, creature 4 "Elvish Mystic" .green]

/-- A green deck leaves the red creature out and takes the green one. -/
theorem generate_within_colors_binder :
    (twiceGreen.generate .strict (binder.map Card.toRecord) (.ofSeed 7)).1.cards = [⟨1⟩, ⟨4⟩] ∧
      twiceGreen.basicCopies (binder.map Card.toRecord) ⟨4⟩ = 0 ∧
      ∃ card ∈ binder, card.id = ⟨4⟩ ∧ card.colorIdentity ⊆ [.green, .green] := by
  have cards : (twiceGreen.generate .strict (binder.map Card.toRecord) (.ofSeed 7)).1.cards =
      [⟨1⟩, ⟨4⟩] := by decide +kernel
  -- The elf is no basic land, so its copies come from a category.
  have none : twiceGreen.basicCopies (binder.map Card.toRecord) ⟨4⟩ = 0 := by decide +kernel
  have copies : 0 < (twiceGreen.generate .strict (binder.map Card.toRecord)
      (.ofSeed 7)).1.quantity ⟨4⟩ := by decide +kernel
  obtain ⟨card, here, same, within⟩ := (generate_within_colors [.green, .green] .strict).2.2 twiceGreen rfl
    binder (by decide) (.ofSeed 7) ⟨4⟩ (cards ▸ by decide)
  exact ⟨cards, none, card, here, same, within (none ▸ copies)⟩

end Preferences

end Decksmith
