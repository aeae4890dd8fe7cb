import Decksmith.Assembly.Settings
import Decksmith.Deck.Basic
import Decksmith.Slot.Selection

/-! Assembling decks: slots take turns until the deck is large enough. -/

namespace Decksmith

/-- Why a deck could not be assembled. -/
inductive AssemblyError where
  | noSlots
  | invalidDeckSize (minTotal maxTotal : Nat)
  | unsatisfiable (iterations total minTotal : Nat)
  | selection (error : SelectionError)
deriving Repr

/-- The text that reports why a deck could not be assembled. -/
def AssemblyError.message : AssemblyError → String
  | noSlots => "assembler has no slots"
  | invalidDeckSize minTotal maxTotal =>
    "invalid deck size range " ++ toString minTotal ++ "..=" ++ toString maxTotal
  | unsatisfiable iterations total minTotal =>
    "deck stalled at " ++ toString total ++ " of " ++ toString minTotal ++ " cards after " ++
      toString iterations ++ " fruitless iterations"
  | selection error => error.message

/-- What an assembly goes by. -/
structure Assembler where
  settings : Settings := {}
  slots : List Slot := []
  /-- The slot that fills the deck up once the others have had their turn. -/
  remainder : Option Slot := none
  /-- The query for the copies that a trim removes. -/
  trim : Option Query := none

/-- Whose turn it is. -/
inductive Turn where
  | slot (index : Nat)
  | remainder
deriving DecidableEq, Repr

/-- How far an assembly has come. -/
structure Progress where
  /-- The records that are still below the copy limit. -/
  pool : List Record
  deck : Deck
  total : Nat
  /-- Whose turn was last, if any turn has been. -/
  last : Option Turn
  /-- How many visits in a row have added nothing. -/
  fruitless : Nat
  source : Random.Source

/-- What one visit to a slot has done. -/
structure Visit where
  pool : List Record
  turn : Turn
  deck : Deck
  /-- How many copies have been added. -/
  added : Nat

namespace Progress

/-- How far an assembly has come after a visit. -/
def after (progress : Progress) (visit : Visit) (source : Random.Source) : Progress where
  pool := visit.pool
  deck := visit.deck
  total := progress.total + visit.added
  last := some visit.turn
  fruitless := if visit.added = 0 then progress.fruitless + 1 else 0
  source := source

/-- A visit brings the wanted size nearer, or the limit on visits that add nothing. -/
theorem after_decreases (progress : Progress) (visit : Visit) (source : Random.Source)
    {wanted limit : Nat} (missing : progress.total < wanted) (patient : progress.fruitless < limit) :
    Prod.Lex (· < ·) (· < ·)
      (wanted - (progress.after visit source).total, limit - (progress.after visit source).fruitless)
      (wanted - progress.total, limit - progress.fruitless) := by
  by_cases none : visit.added = 0
  · -- Without a new copy the size stays as it was, and one more visit counts.
    simp only [after, none, Nat.add_zero, if_true]
    exact Prod.Lex.right _ (by omega)
  · -- New copies leave fewer to be added.
    exact Prod.Lex.left _ _ (by simp only [after]; omega)

/-- Repeats visits until the deck has a wanted size, or until too many in a row have added nothing.
Every visit adds copies or is one more without success, so the visits come to an end. -/
def repeatVisits (visit : Progress → Except SelectionError Visit × Random.Source)
    (wanted limit : Nat) (progress : Progress) : Except AssemblyError Progress × Random.Source :=
  if wanted ≤ progress.total then (.ok progress, progress.source)
  else if limit ≤ progress.fruitless then
    (.error (.unsatisfiable progress.fruitless progress.total wanted), progress.source)
  else
    match visit progress with
    | (.error fault, source) => (.error (.selection fault), source)
    | (.ok done, source) => repeatVisits visit wanted limit (progress.after done source)
termination_by (wanted - progress.total, limit - progress.fruitless)
decreasing_by
  exact progress.after_decreases done source (by omega) (by omega)

end Progress

namespace Assembler

/-- Whether a card has as many copies as the settings allow. -/
def isCapped (assembler : Assembler) (deck : Deck) (card : CardId) : Bool :=
  0 < assembler.settings.copyThreshold &&
    assembler.settings.copyThreshold ≤ deck.quantity card

/-- The turn behind a sequential one. Behind the last slot comes the remainder slot, where the policy
and the assembler have one, and otherwise the first slot again. -/
def turnAfter (assembler : Assembler) : Option Turn → Turn
  | some .remainder => .remainder
  | last =>
    let next :=
      match last with
      | some (.slot index) => index + 1
      | _ => 0
    if next < assembler.slots.length then .slot next
    else if assembler.settings.iterationPolicy = .sequentialFillRemaining &&
        assembler.remainder.isSome then .remainder
    else .slot 0

/-- Whose turn is next. Only the random policy draws. -/
def nextTurn (assembler : Assembler) (last : Option Turn) (source : Random.Source) :
    Turn × Random.Source :=
  match assembler.settings.iterationPolicy with
  | .random =>
    let drawn := source.position? assembler.slots.length
    (.slot (drawn.1.getD 0), drawn.2)
  | _ => (assembler.turnAfter last, source)

/-- The slot whose turn it is. -/
def slotFor (assembler : Assembler) (turn : Turn) : Slot :=
  match turn with
  | .slot index => assembler.slots[index]?.getD {}
  | .remainder => assembler.remainder.getD (assembler.slots.head?.getD {})

/-- Adds a copy of every picked record, up to the largest size and the copy limit. The count tells how
many copies have been added. -/
def addPicks (assembler : Assembler) (total : Nat) : List Record → Deck → Nat → Deck × Nat
  | [], deck, added => (deck, added)
  | record :: others, deck, added =>
    -- The size limit ends the visit, the copy limit only passes a card over.
    if assembler.settings.maxTotal ≤ total + added then (deck, added)
    else if assembler.isCapped deck record.id then addPicks assembler total others deck added
    else addPicks assembler total others (deck.add record.id 1) (added + 1)

/-- The records of a pool that are below the copy limit. -/
def openPool (assembler : Assembler) (deck : Deck) (pool : List Record) : List Record :=
  pool.filter fun record => !assembler.isCapped deck record.id

/-- What the slot picks whose turn it is. The remainder slot picks as many as are missing. -/
def picksFor (assembler : Assembler) (turn : Turn) (slot : Slot) (pool : List Record)
    (missing : Nat) (source : Random.Source) :
    Except SelectionError (List Record) × Random.Source :=
  let mode := assembler.settings.caseMode
  match turn with
  | .remainder => slot.selectCount mode pool missing source
  | .slot _ => slot.select mode pool (some assembler.settings.minTotal) source

/-- One visit: the pool shrinks, a slot has its turn, and its picks go into the deck. -/
def visit (assembler : Assembler) (progress : Progress) :
    Except SelectionError Visit × Random.Source :=
  -- The pool only ever shrinks: a card at its limit stays there until the trim.
  let pool := assembler.openPool progress.deck progress.pool
  let turn := assembler.nextTurn progress.last progress.source
  let slot := assembler.slotFor turn.1
  let active := slot.activates turn.2
  if !active.1 then (.ok ⟨pool, turn.1, progress.deck, 0⟩, active.2)
  else
    let missing := assembler.settings.minTotal - progress.total
    match assembler.picksFor turn.1 slot pool missing active.2 with
    | (.error fault, source) => (.error fault, source)
    | (.ok picks, source) =>
      let grown := assembler.addPicks progress.total picks progress.deck 0
      (.ok ⟨pool, turn.1, grown.1, grown.2⟩, source)

/-- Visits slots until the deck has its smallest size. -/
def fill (assembler : Assembler) (progress : Progress) :
    Except AssemblyError Progress × Random.Source :=
  progress.repeatVisits assembler.visit assembler.settings.minTotal
    assembler.settings.maxIterations

/-- The share of a number of copies that a trim may remove. -/
def trimBudget (settings : Settings) (total : Nat) : Nat :=
  if total ≤ settings.minTotal then 0
  else
    -- A share of at most one keeps the deck at its smallest size.
    let share := Random.Source.toProbability settings.trimFraction
    (Float.ofNat (total - settings.minTotal) * share).toUInt64.toNat

/-- The copies of a deck that a query selects, by the last record with their identity. -/
def trimmable (mode : CaseMode) (filter : Query) (records : List Record) (deck : Deck) :
    List Record :=
  filter.select mode (deck.flatten.filterMap (Record.lastWithId? records))

/-- Removes a copy for each of some records, as far as there is one, and tells how many are gone. -/
def removeEach : List Record → Deck → Nat × Deck
  | [], deck => (0, deck)
  | record :: others, deck =>
    let lowered := deck.removeCopies record.id 1
    let rest := removeEach others lowered.2
    (lowered.1 + rest.1, rest.2)

/-- Removes the copies that the trim is for, from the front and within its budget, and tells how many are
gone. -/
def trimCopies (assembler : Assembler) (records : List Record) (deck : Deck) : Nat × Deck :=
  match assembler.trim with
  | none => (0, deck)
  | some filter =>
    let budget := trimBudget assembler.settings deck.total
    -- What is removed is settled before the first removal.
    if budget = 0 then (0, deck)
    else
      removeEach ((trimmable assembler.settings.caseMode filter records deck).take budget) deck

/-- The deck without the copies that the trim removes. -/
def trimmed (assembler : Assembler) (records : List Record) (deck : Deck) : Deck :=
  (assembler.trimCopies records deck).2

/-- Where every assembly starts. -/
def start (records : List Record) (source : Random.Source) : Progress :=
  ⟨records, .empty, 0, none, 0, source⟩

/-- Assembles a deck from some records. -/
def assemble (assembler : Assembler) (records : List Record) (source : Random.Source) :
    Except AssemblyError Deck × Random.Source :=
  let settings := assembler.settings
  -- Both faults of the setup are found before anything is drawn.
  if assembler.slots.isEmpty then (.error .noSlots, source)
  else if settings.maxTotal < settings.minTotal then
    (.error (.invalidDeckSize settings.minTotal settings.maxTotal), source)
  else
    match assembler.fill (start records source) with
    | (.error fault, source) => (.error fault, source)
    | (.ok progress, source) => (.ok (assembler.trimmed records progress.deck), source)

/-- Assembles a deck with the randomness of the seed in the settings. -/
def assembleSeeded (assembler : Assembler) (records : List Record) : Except AssemblyError Deck :=
  (assembler.assemble records (.ofSeed assembler.settings.seed)).1

end Assembler

end Decksmith
