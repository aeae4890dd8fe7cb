import Decksmith.Card.Key
import Decksmith.Query.Relation
import Decksmith.Text.Ascii
import Decksmith.Text.Blank

/-! The words of the query language: field aliases, relation symbols and the modifier. -/

namespace Decksmith.Vocabulary

/-- The aliases of fields. The first alias of a field is its canonical one. -/
def fieldAliases : List (String × FieldKey) :=
  [("arenaid", .arenaId),
   ("artist", .artist),
   ("art", .artist),
   ("bordercolor", .borderColor),
   ("border", .borderColor),
   ("cmc", .cmc),
   ("convertedmanacost", .cmc),
   ("collectornumber", .collectorNumber),
   ("coloridentity", .colorIdentity),
   ("cid", .colorIdentity),
   ("colorindicator", .colorIndicator),
   ("cin", .colorIndicator),
   ("colors", .colors),
   ("color", .colors),
   ("c", .colors),
   ("colorshifted", .colorshifted),
   ("digital", .digital),
   ("edhrank", .edhrecRank),
   ("flavortext", .flavorText),
   ("flavor", .flavorText),
   ("foil", .foil),
   ("frame", .frame),
   ("f", .frame),
   ("fullart", .fullArt),
   ("futureshifted", .futureshifted),
   ("handmodifier", .handModifier),
   ("hm", .handModifier),
   ("id", .id),
   ("illustrationid", .illustrationId),
   ("lang", .lang),
   ("layout", .layout),
   ("l", .layout),
   ("brawl", .legal .brawl),
   ("commander", .legal .commander),
   ("duel", .legal .duel),
   ("1v1", .legal .duel),
   ("frontier", .legal .frontier),
   ("future", .legal .future),
   ("legacy", .legal .legacy),
   ("modern", .legal .modern),
   ("pauper", .legal .pauper),
   ("penny", .legal .penny),
   ("standard", .legal .standard),
   ("vintage", .legal .vintage),
   ("lifemodifier", .lifeModifier),
   ("lm", .lifeModifier),
   ("loyalty", .loyalty),
   ("manacost", .manaCost),
   ("mc", .manaCost),
   ("mtgofoilid", .mtgoFoilId),
   ("mtgoid", .mtgoId),
   ("name", .name),
   ("n", .name),
   ("nonfoil", .nonfoil),
   ("oracleid", .oracleId),
   ("oracletext", .oracleText),
   ("oversized", .oversized),
   ("power", .power),
   ("p", .power),
   ("printedname", .printedName),
   ("printedtext", .printedText),
   ("printedtypeline", .printedTypeLine),
   ("rarity", .rarity),
   ("r", .rarity),
   ("reprint", .reprint),
   ("reserved", .reserved),
   ("set", .set),
   ("s", .set),
   ("setname", .setName),
   ("sn", .setName),
   ("storyspotlightnumber", .storySpotlightNumber),
   ("subtypes", .subTypes),
   ("st", .subTypes),
   ("timeshifted", .timeshifted),
   ("toughness", .toughness),
   ("tn", .toughness),
   ("typeline", .typeLine),
   ("types", .types),
   ("t", .types),
   ("watermark", .watermark)]

/-- The symbols of relations. -/
def relationSymbols : List (String × Relation) :=
  [("=", .equal),
   ("!=", .notEqual),
   (">", .order .greater),
   (">=", .order .greaterOrEqual),
   ("<", .order .less),
   ("<=", .order .lessOrEqual),
   ("includes", .includes),
   ("excludes", .excludes)]

/-- The words of modifiers. A predicate without a modifier has no word for that. -/
def modifierWords : List (String × Modifier) :=
  [("count", .count)]

/-- The meaning of a token in a table, whatever the case of its ASCII letters. -/
def meaning? (table : List (String × α)) (token : List Char) : Option α :=
  (table.find? fun entry =>
    Text.sameIgnoringAsciiCase entry.1.toList (Text.trim token)).map Prod.snd

/-- The first word for a meaning in a table. -/
def word? [DecidableEq α] (table : List (String × α)) (value : α) : Option String :=
  (table.find? fun entry => entry.2 = value).map Prod.fst

/-- The field that a token names. -/
def field? (token : List Char) : Option FieldKey :=
  meaning? fieldAliases token

/-- The relation that a token names. -/
def relation? (token : List Char) : Option Relation :=
  meaning? relationSymbols token

/-- The modifier that a token names. -/
def modifier? (token : List Char) : Option Modifier :=
  meaning? modifierWords token

/-- The canonical alias of a field. -/
def aliasOf (key : FieldKey) : String :=
  (word? fieldAliases key).getD "name"

/-- The symbol of a relation. -/
def symbol (relation : Relation) : String :=
  (word? relationSymbols relation).getD "="

/-- The word for a modifier, if it has one. -/
def modifierWord? (modifier : Modifier) : Option String :=
  word? modifierWords modifier

end Decksmith.Vocabulary
