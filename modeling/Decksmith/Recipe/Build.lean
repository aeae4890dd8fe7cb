import Decksmith.Recipe.Basic

/-! Building recipes: their numbers are checked, and their queries read. -/

namespace Decksmith

/-- Whether a number is from zero to one. -/
def isUnitFraction (x : Float) : Bool :=
  0.0 ≤ x && x ≤ 1.0

/-- Whether a number may be the threshold of ties. -/
def isThreshold (x : Float) : Bool :=
  x.isFinite && !(x < 0.0)

/-- Passes if a condition holds. -/
def RecipeFault.unless (fault : RecipeFault) (condition : Bool) : Except RecipeError Unit :=
  if condition then .ok () else .error (.invalid fault)

/-- Reads a query of a recipe. -/
def readQuery (text : String) : Except RecipeError Query :=
  (Query.parse text).mapError (RecipeError.query text)

/-- Builds a filter. -/
def FilterRecipe.build (filter : FilterRecipe) : Except RecipeError (Query × Int) :=
  (readQuery filter.query).map fun query => (query, filter.weight)

/-- Builds a slot. The chance is checked first, then the threshold, then the filters in turn. -/
def SlotRecipe.build (recipe : SlotRecipe) : Except RecipeError Slot := do
  (RecipeFault.activationChance recipe.activationChance).unless
    (isUnitFraction recipe.activationChance)
  (RecipeFault.tieThreshold recipe.tieThreshold).unless (isThreshold recipe.tieThreshold)
  let filters ← recipe.filters.mapM FilterRecipe.build
  return {
    filters := filters
    rankings := recipe.rankings
    quantity := recipe.quantity
    policy := recipe.policy
    tieBreak := recipe.tieBreak
    tieThreshold := recipe.tieThreshold
    blacklist := recipe.blacklist
    activationChance := recipe.activationChance }

/-- Builds what may be missing. -/
def buildOption (build : α → Except RecipeError β) : Option α → Except RecipeError (Option β)
  | none => .ok none
  | some recipe => (build recipe).map some

namespace Recipe

/-- Builds an assembler. The settings are checked first, then the slots in turn, then the remainder
slot, and the query of the trim last. -/
def build (recipe : Recipe) : Except RecipeError Assembler := do
  -- The first fault ends the build.
  let settings := recipe.settings
  RecipeFault.noSlots.unless (!recipe.slots.isEmpty)
  (RecipeFault.sizesReversed settings.minTotal settings.maxTotal).unless
    (settings.minTotal ≤ settings.maxTotal)
  (RecipeFault.trimFraction settings.trimFraction).unless
    (isUnitFraction settings.trimFraction)
  let slots ← recipe.slots.mapM SlotRecipe.build
  let remainder ← buildOption SlotRecipe.build recipe.remainder
  let trim ← buildOption readQuery recipe.trim
  return ⟨settings, slots, remainder, trim⟩

end Recipe

end Decksmith
