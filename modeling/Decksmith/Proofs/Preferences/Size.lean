import Decksmith.Proofs.Preferences.Composition
import Decksmith.Proofs.Preferences.Shares

/-! A deck that is made from preferences has no more copies than its size. -/

namespace Decksmith.Preferences

variable (preferences : Preferences) (mode : CaseMode)

/-- All colors together bring no more lands than the share of the lands amounts to. -/
theorem landsEach_mul_le :
    preferences.landsEach * preferences.basicNames.length ≤
      preferences.ratios.count preferences.ratios.lands preferences.deckSize := by
  unfold landsEach basicNames
  -- A colorless deck has one name, and otherwise there is one for each color.
  cases preferences.colors with
  | nil => simp
  | cons color others =>
    simp only [List.length_map]
    exact Nat.div_mul_le_self _ _

/-- The basic lands are no more copies than the names ask for. -/
theorem total_addBasics_le (records : List Record) (copies : Nat) (names : List String) :
    (names.foldl (addBasic records copies) Deck.empty).total ≤ copies * names.length := by
  -- There are at most as many additions as names.
  rw [foldl_addBasic, Deck.total_foldl_add Deck.empty_wellFormed]
  have none : Deck.empty.total = 0 := rfl
  rw [none, Nat.zero_add]
  exact Nat.mul_le_mul_left copies (List.length_filterMap_le _ _)

/-- Filling a category adds no more copies than its share amounts to. -/
theorem total_addCategory_le (records : List Record) {deck : Deck} (formed : deck.WellFormed)
    (source : Random.Source) (category : Category) :
    (preferences.addCategory mode records deck source category).1.total ≤ deck.total +
      preferences.ratios.count (category.share preferences.ratios) preferences.deckSize := by
  rw [addCategory_fst, Deck.total_foldl_add formed, List.length_map, Nat.one_mul]
  exact Nat.add_le_add_left (List.length_take_le _ _) _

/-- Filling some categories adds no more copies than all their shares amount to. -/
theorem total_addCategories_le (records : List Record) (categories : List Category) {deck : Deck}
    (formed : deck.WellFormed) (source : Random.Source) :
    (categories.foldl (fun made category => preferences.addCategory mode records made.1 made.2 category)
        (deck, source)).1.total ≤
      deck.total + (categories.map fun category =>
        preferences.ratios.count (category.share preferences.ratios) preferences.deckSize).sum := by
  -- The categories are filled one after the other, each from the deck of the ones before.
  induction categories generalizing deck source with
  | nil => exact Nat.le_refl _
  | cons category others ih =>
    have first := preferences.total_addCategory_le mode records formed source category
    have kept : (preferences.addCategory mode records deck source category).1.WellFormed :=
      preferences.addCategory_wellFormed mode formed source category
    have rest := ih kept (preferences.addCategory mode records deck source category).2
    rw [List.foldl_cons, List.map_cons, List.sum_cons]
    refine rest.trans ?_
    omega

/-- A deck that is made from sensible shares of fewer than 2⁵⁰ cards has no more copies than its size. The
shares are computed in doubles, and no rounding adds a copy. -/
theorem generate_total_le (sensible : preferences.ratios.Sensible preferences.deckSize)
    (small : preferences.deckSize < 2 ^ 50) (records : List Record) (source : Random.Source) :
    (preferences.generate mode records source).1.total ≤ preferences.deckSize := by
  have formed := (addBasics_quantity records preferences.landsEach preferences.basicNames).1
  have lands := total_addBasics_le records preferences.landsEach preferences.basicNames
  have each := preferences.landsEach_mul_le
  have filled := preferences.total_addCategories_le mode records Category.all formed source
  -- The lands and the three categories have the four shares.
  have shares := Ratios.counts_le sensible small
  simp only [Category.all, Category.share, Ratios.shares, List.map_cons, List.map_nil, List.sum_cons,
    List.sum_nil] at filled shares
  rw [generate]
  simp only [Category.all]
  omega

/-- A green deck of ten cards, with shares that no double holds exactly. -/
def tenths : Preferences where
  colors := [.green]
  ratios := ⟨0.6, 0.2, 0.1, 0.1⟩
  deckSize := 10

/-- The deck has six lands and the one creature that there is. -/
theorem generate_total_le_tenths :
    tenths.ratios.Sensible 10 ∧
      (tenths.generate .strict [forest, mystic] (.ofSeed 7)).1.total = 7 ∧ 7 ≤ tenths.deckSize := by
  -- The shares of a tenth are sensible, which is computed in doubles.
  have sensible : tenths.ratios.Sensible 10 :=
    ⟨by decide +kernel, by decide +kernel, by decide +kernel⟩
  have total : (tenths.generate .strict [forest, mystic] (.ofSeed 7)).1.total = 7 := by decide +kernel
  exact ⟨sensible, total,
    total ▸ tenths.generate_total_le .strict sensible (by decide) [forest, mystic] (.ofSeed 7)⟩

end Decksmith.Preferences
