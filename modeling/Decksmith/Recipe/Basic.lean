import Decksmith.Assembly.Basic

/-! Recipes: an assembly as it is written down, before its queries are read. -/

namespace Decksmith

/-- A query as written, with the points that it awards. -/
structure FilterRecipe where
  query : String
  weight : Int
deriving DecidableEq, Repr

/-- A slot as written. What is left out is as in a plain slot. -/
structure SlotRecipe where
  filters : List FilterRecipe := []
  rankings : List Ranking := []
  quantity : Quantity := .exactly 1
  policy : SelectionPolicy := .randomByPointWeight
  tieBreak : TieBreak := .random
  tieThreshold : Float := 0.0
  activationChance : Float := 1.0
  blacklist : List CardId := []
deriving Repr

/-- An assembly as written. -/
structure Recipe where
  settings : Settings := {}
  slots : List SlotRecipe := []
  remainder : Option SlotRecipe := none
  trim : Option String := none
deriving Repr

/-- What is wrong with a recipe whose queries are right. -/
inductive RecipeFault where
  | noSlots
  | sizesReversed (minTotal maxTotal : Nat)
  | trimFraction (value : Float)
  | activationChance (value : Float)
  | tieThreshold (value : Float)
deriving Repr

/-- The text that reports what is wrong. -/
def RecipeFault.message : RecipeFault → String
  | noSlots => "recipe has no slots"
  | sizesReversed minTotal maxTotal =>
    "min_total " ++ toString minTotal ++ " exceeds max_total " ++ toString maxTotal
  | trimFraction value => "trim_fraction must be within 0..=1, got " ++ Decimal.write value
  | activationChance value =>
    "activation_chance must be within 0..=1, got " ++ Decimal.write value
  | tieThreshold value =>
    "tie_threshold must be a non-negative number, got " ++ Decimal.write value

/-- Why a recipe could not be loaded or built. -/
inductive RecipeError where
  /-- The file is missing, or it is no text. -/
  | unreadable
  /-- The text is no recipe. -/
  | malformed
  | query (text : String) (error : SyntaxError)
  | invalid (fault : RecipeFault)
deriving Repr

/-- The text that reports why a recipe could not be loaded or built. -/
def RecipeError.message : RecipeError → String
  | unreadable => "the recipe cannot be read"
  | malformed => "the text is no recipe"
  | query text error => "query `" ++ text ++ "` is invalid: " ++ error.message
  | invalid fault => "invalid recipe: " ++ fault.message

end Decksmith
