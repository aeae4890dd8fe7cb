import Decksmith.Decimal.Binary
import Decksmith.Deck.Basic
import Decksmith.Preferences.Basic
import Decksmith.Query.Selection
import Decksmith.Ranking

/-! Decks made from preferences alone: basic lands, then the best ranked cards of each category. -/

namespace Decksmith

namespace Query

/-- Rejects cards whose color identity has a color outside a list; nothing if the list has all. -/
def colorExclusion? (colors : List Color) : Option Query :=
  -- The order is that of the colors, whatever the order of the list.
  match Color.all.filter fun color => !colors.contains color with
  | [] => none
  | excluded =>
    some (ofOperands .intersect (excluded.map fun color =>
      test (.trimmed .colorIdentity .none .notEqual color.symbol.toList)))

end Query

/-- A category of cards that shares in a deck besides the lands. -/
inductive Category where
  | creatures
  | otherPermanents
  | nonpermanents
deriving DecidableEq, Repr

namespace Category

/-- The categories in the order in which they are filled. -/
def all : List Category := [creatures, otherPermanents, nonpermanents]

/-- The share of a category. -/
def share : Category → Ratios → Float
  | creatures, ratios => ratios.creatures
  | otherPermanents, ratios => ratios.otherPermanents
  | nonpermanents, ratios => ratios.nonpermanents

/-- Tests whether a card has a type. -/
def hasType (name : String) : Query :=
  .test (.trimmed .types .none .equal name.toList)

/-- Tests whether a card lacks a type. -/
def lacksType (name : String) : Query :=
  .test (.trimmed .types .none .notEqual name.toList)

/-- The query for the cards of a category. -/
def query : Category → Query
  | creatures => hasType "Creature"
  | otherPermanents =>
    .group .intersect
      [lacksType "Creature",
       .group .union [hasType "Enchantment", hasType "Artifact", hasType "Planeswalker"]]
  | nonpermanents => .group .union [hasType "Instant", hasType "Sorcery"]

end Category

namespace Preferences

/-- The land of a deck without colors. -/
def colorlessBasic : String := "Wastes"

/-- The points for the highest rank. -/
def rankPool : Nat := 40000

/-- The ranking of candidates. -/
def ranking : Ranking where
  key := .edhrecRank
  direction := .most
  pool := Float.ofNat rankPool

/-- The names of the basic lands, one for each color. -/
def basicNames (preferences : Preferences) : List String :=
  match preferences.colors with
  | [] => [colorlessBasic]
  | colors => colors.map Color.basicLand

/-- How many copies of each basic land go into the deck. -/
def landsEach (preferences : Preferences) : Nat :=
  -- What the division leaves over is not dealt out.
  let lands := preferences.ratios.count preferences.ratios.lands preferences.deckSize
  match preferences.colors with
  | [] => lands
  | colors => lands / colors.length

/-- Whether a record has exactly a given text for its name. -/
def isNamed (name : String) (record : Record) : Bool :=
  match record.field .name with
  | .text text => text == name
  | _ => false

/-- The deck with copies of the first record of a name, if there is one. -/
def addBasic (records : List Record) (copies : Nat) (deck : Deck) (name : String) : Deck :=
  match records.find? (isNamed name) with
  | none => deck
  | some record => deck.add record.id copies

/-- The query for the cards of a category that fit the colors. -/
def categoryQuery (preferences : Preferences) (category : Category) : Query :=
  match Query.colorExclusion? preferences.colors with
  | none => category.query
  | some exclusion => .group .intersect [category.query, exclusion]

/-- A record with the number that decides when it is taken. -/
structure Ranked where
  record : Record
  order : Float

/-- Draws the order of the records that have a score: a tenth of the score, with a random number on
top. -/
def jittered (scores : List (CardId × Float)) :
    List Record → Random.Source → List Ranked × Random.Source
  | [], source => ([], source)
  | record :: others, source =>
    match Ranking.lastScore? scores record.id with
    | none => jittered scores others source
    | some score =>
      -- Records without a score draw nothing.
      let jitter := source.below rankPool
      let rest := jittered scores others jitter.2
      (⟨record, score / 10.0 + Float.ofNat jitter.1⟩ :: rest.1, rest.2)

/-- The ranked records from the lowest number to the highest; equal numbers keep their order. -/
def sorted (ranked : List Ranked) : List Ranked :=
  ranked.mergeSort fun a b => Decimal.totalLe a.order b.order

/-- The deck with the cards of a category. Cards without a rank are never taken. -/
def addCategory (preferences : Preferences) (mode : CaseMode) (records : List Record)
    (deck : Deck) (source : Random.Source) (category : Category) : Deck × Random.Source :=
  let candidates := (preferences.categoryQuery category).select mode records
  let ranked := jittered (ranking.scores candidates) candidates source
  let wanted := preferences.ratios.count (category.share preferences.ratios) preferences.deckSize
  (((sorted ranked.1).take wanted).foldl (fun deck entry => deck.add entry.record.id 1) deck,
    ranked.2)

/-- The deck that the preferences ask for, as far as the records have it. -/
def generate (preferences : Preferences) (mode : CaseMode) (records : List Record)
    (source : Random.Source) : Deck × Random.Source :=
  let lands := preferences.basicNames.foldl (addBasic records preferences.landsEach) Deck.empty
  Category.all.foldl
    (fun made category => preferences.addCategory mode records made.1 made.2 category)
    (lands, source)

end Preferences

end Decksmith
