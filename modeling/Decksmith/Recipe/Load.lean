import Decksmith.Recipe.Basic
import Decksmith.Toml.Decode
import Decksmith.Toml.Document

/-! Loading recipes from TOML documents. -/

namespace Decksmith

open Toml (Value required? optional?)

/-- The largest count and the largest seed that a recipe can hold. -/
def countLimit : Nat := UInt64.size - 1

/-- The largest card number. -/
def cardLimit : Nat := UInt32.size - 1

/-- Reads a count. -/
def count? : Value → Option Nat :=
  Value.natural? countLimit

/-- Reads a filter. -/
def FilterRecipe.ofValue? (value : Value) : Option FilterRecipe := do
  let fields ← value.fields? ["query", "weight"]
  return {
    query := ← required? fields "query" Value.text?
    weight := ← required? fields "weight" Value.integer? }

/-- Reads a ranking. -/
def Ranking.ofValue? (value : Value) : Option Ranking := do
  let fields ← value.fields? ["key", "direction", "score_pool"]
  return {
    key := ← required? fields "key" (Value.named? SortKey.ofSpelling?)
    direction := ← optional? fields "direction" (Value.named? Direction.ofSpelling?) .most
    pool := ← required? fields "score_pool" Value.number? }

/-- Reads a quantity: a choice between two kinds of bounds. -/
def Quantity.ofValue? (value : Value) : Option Quantity := do
  let (kind, held) ← value.choice?
  let fields ← (← held).exactFields? ["min", "max"]
  if kind = "fixed" then
    return .fixed (← required? fields "min" count?) (← required? fields "max" count?)
  else if kind = "percent" then
    return .percent (← required? fields "min" Value.number?)
      (← required? fields "max" Value.number?)
  else none

/-- Reads a way to break ties. -/
def TieBreak.ofValue? (value : Value) : Option TieBreak :=
  match value.choice? with
  | some ("random", held) => if held.all Value.isHollow then some .random else none
  | some ("ascending", some key) => (key.named? SortKey.ofSpelling?).map TieBreak.ascending
  | _ => none

/-- Reads the number of a card. -/
def CardId.ofValue? (value : Value) : Option CardId :=
  (value.natural? cardLimit).map fun number => ⟨UInt32.ofNat number⟩

/-- Reads a slot. -/
def SlotRecipe.ofValue? (value : Value) : Option SlotRecipe := do
  let usual : SlotRecipe := {}
  let fields ← value.fields?
    ["filters", "sorts", "quantity", "policy", "tie_break", "tie_threshold",
     "activation_chance", "blacklist"]
  return {
    filters := ← optional? fields "filters" (Value.list? FilterRecipe.ofValue?) usual.filters
    rankings := ← optional? fields "sorts" (Value.list? Ranking.ofValue?) usual.rankings
    quantity := ← optional? fields "quantity" Quantity.ofValue? usual.quantity
    policy :=
      ← optional? fields "policy" (Value.named? SelectionPolicy.ofSpelling?) usual.policy
    tieBreak := ← optional? fields "tie_break" TieBreak.ofValue? usual.tieBreak
    tieThreshold := ← optional? fields "tie_threshold" Value.number? usual.tieThreshold
    activationChance :=
      ← optional? fields "activation_chance" Value.number? usual.activationChance
    blacklist :=
      ← optional? fields "blacklist" (Value.list? CardId.ofValue?) usual.blacklist }

/-- Reads settings. -/
def Settings.ofValue? (value : Value) : Option Settings := do
  let usual : Settings := {}
  let fields ← value.fields?
    ["min_total", "max_total", "iteration_policy", "copy_threshold", "trim_fraction",
     "max_iterations", "seed", "strict_case"]
  let policy? := Value.named? IterationPolicy.ofSpelling?
  let seed? := fun value => (count? value).map UInt64.ofNat
  return {
    minTotal := ← optional? fields "min_total" count? usual.minTotal
    maxTotal := ← optional? fields "max_total" count? usual.maxTotal
    iterationPolicy := ← optional? fields "iteration_policy" policy? usual.iterationPolicy
    copyThreshold := ← optional? fields "copy_threshold" count? usual.copyThreshold
    trimFraction := ← optional? fields "trim_fraction" Value.number? usual.trimFraction
    maxIterations := ← optional? fields "max_iterations" count? usual.maxIterations
    seed := ← optional? fields "seed" seed? usual.seed
    strictCase := ← optional? fields "strict_case" Value.boolean? usual.strictCase }

namespace Recipe

/-- Reads a recipe from the table of a document. -/
def ofValue? (value : Value) : Option Recipe := do
  let fields ← value.fields? ["assembler", "slots", "remainder", "trim"]
  let remainder? := fun value => (SlotRecipe.ofValue? value).map some
  let trim? := fun value => (Value.text? value).map some
  return {
    settings := ← optional? fields "assembler" Settings.ofValue? {}
    slots := ← optional? fields "slots" (Value.list? SlotRecipe.ofValue?) []
    remainder := ← optional? fields "remainder" remainder? none
    trim := ← optional? fields "trim" trim? none }

/-- The recipe that a document describes. -/
def ofToml (text : String) : Except RecipeError Recipe :=
  match (Toml.parse? text).bind ofValue? with
  | some recipe => .ok recipe
  | none => .error .malformed

/-- The recipe in a file, given the content of the file, if there is one. -/
def ofContent (content : Option ByteArray) : Except RecipeError Recipe :=
  match content.bind String.fromUTF8? with
  | some text => ofToml text
  | none => .error .unreadable

end Recipe

end Decksmith
