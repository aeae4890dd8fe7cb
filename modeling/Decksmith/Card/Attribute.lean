/-! Colors, rarities, formats and legalities of cards. -/

namespace Decksmith

/-- One of the five colors of mana. -/
inductive Color where
  | white
  | blue
  | black
  | red
  | green
deriving DecidableEq, Repr

namespace Color

/-- The colors in their customary order. -/
def all : List Color := [white, blue, black, red, green]

/-- The letter that stands for a color. -/
def letter : Color → Char
  | white => 'W'
  | blue => 'U'
  | black => 'B'
  | red => 'R'
  | green => 'G'

/-- The mana symbol of a color: its letter in braces. -/
def symbol (color : Color) : String :=
  String.ofList ['{', color.letter, '}']

/-- The basic land that produces a color. -/
def basicLand : Color → String
  | white => "Plains"
  | blue => "Island"
  | black => "Swamp"
  | red => "Mountain"
  | green => "Forest"

/-- The color with a given letter. -/
def ofLetter? (letter : String) : Option Color :=
  all.find? fun color => color.letter.toString == letter

/-- The position of a color in the customary order. -/
def rank : Color → Nat
  | white => 0
  | blue => 1
  | black => 2
  | red => 3
  | green => 4

end Color

/-- How often a card is printed. -/
inductive Rarity where
  | common
  | uncommon
  | rare
  | mythic
deriving DecidableEq, Repr

namespace Rarity

/-- The rarities from the most common to the scarcest. -/
def all : List Rarity := [common, uncommon, rare, mythic]

/-- The spelling of a rarity. -/
def spelling : Rarity → String
  | common => "common"
  | uncommon => "uncommon"
  | rare => "rare"
  | mythic => "mythic"

/-- The position of a rarity among all of them. -/
def rank : Rarity → Nat
  | common => 0
  | uncommon => 1
  | rare => 2
  | mythic => 3

/-- The rarity with a given spelling. -/
def ofSpelling? (spelling : String) : Option Rarity :=
  all.find? (·.spelling == spelling)

end Rarity

/-- A way to play that has rules of its own on which cards are legal. -/
inductive Format where
  | brawl
  | commander
  | duel
  | frontier
  | future
  | legacy
  | modern
  | pauper
  | penny
  | standard
  | vintage
deriving DecidableEq, Repr

namespace Format

/-- Every format, in alphabetical order. -/
def all : List Format :=
  [brawl, commander, duel, frontier, future, legacy, modern, pauper, penny, standard, vintage]

/-- The spelling of a format. -/
def spelling : Format → String
  | brawl => "brawl"
  | commander => "commander"
  | duel => "duel"
  | frontier => "frontier"
  | future => "future"
  | legacy => "legacy"
  | modern => "modern"
  | pauper => "pauper"
  | penny => "penny"
  | standard => "standard"
  | vintage => "vintage"

/-- The format with a given spelling. -/
def ofSpelling? (spelling : String) : Option Format :=
  all.find? (·.spelling == spelling)

end Format

/-- Whether a card may be played in a format. -/
inductive Legality where
  | legal
  | notLegal
  | restricted
  | banned
deriving DecidableEq, Repr

namespace Legality

/-- Every legality. -/
def all : List Legality := [legal, notLegal, restricted, banned]

/-- The spelling of a legality in card data. -/
def spelling : Legality → String
  | legal => "legal"
  | notLegal => "not_legal"
  | restricted => "restricted"
  | banned => "banned"

/-- The word that queries see. -/
def word : Legality → String
  | legal => "legal"
  | notLegal => "illegal"
  | restricted => "restricted"
  | banned => "banned"

/-- The legality with a given spelling in card data. -/
def ofSpelling? (spelling : String) : Option Legality :=
  all.find? (·.spelling == spelling)

end Legality

end Decksmith
