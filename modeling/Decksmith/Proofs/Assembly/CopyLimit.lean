import Decksmith.Proofs.Assembly.Sound

/-! Under a copy limit no card ever has more copies, also in the middle of a visit and after the trim. -/

namespace Decksmith

/-- Every entry of a deck has at least one copy and no more than a limit. -/
def Deck.Within (deck : Deck) (limit : Nat) : Prop :=
  ∀ entry ∈ deck.entries, 1 ≤ entry.quantity ∧ entry.quantity ≤ limit

/-- A well-formed deck is within the limit that its quantities keep to. -/
theorem Deck.WellFormed.within {deck : Deck} {limit : Nat} (formed : deck.WellFormed)
    (limited : ∀ card, deck.quantity card ≤ limit) : deck.Within limit :=
  fun entry member =>
    ⟨formed.stocked entry member, formed.quantity_of_mem member ▸ limited entry.card⟩

namespace Assembler

variable {assembler : Assembler} {records : List Record} {source : Random.Source}

/-- The number of copies that the cards of some records have when all are at the copy limit. -/
def capacity (assembler : Assembler) (records : List Record) : Nat :=
  (records.map Record.id).dedup.length * assembler.settings.copyThreshold

/-- Picks are added one after the other: what is behind some picks goes on from where these have led. -/
theorem addPicks_append (assembler : Assembler) (total : Nat) (front back : List Record)
    (deck : Deck) (added : Nat) :
    assembler.addPicks total (front ++ back) deck added =
      assembler.addPicks total back (assembler.addPicks total front deck added).1
        (assembler.addPicks total front deck added).2 := by
  -- The induction is on the picks in front, which decide one by one whether to add a copy.
  induction front generalizing deck added with
  | nil => rfl
  | cons record others ih =>
    rw [List.cons_append, addPicks, addPicks]
    split
    · -- A full deck stays as it is, whatever else has been picked.
      rename_i full
      cases back with
      | nil => rfl
      | cons _ _ => rw [addPicks, if_pos full]
    · -- A card at its limit is passed over, and any other card gets a copy.
      split
      · exact ih deck added
      · exact ih (deck.add record.id 1) (added + 1)

/-- The decks that an assembly passes through: those of its states, and within a visit those after each
single addition, when some of the picks have been dealt with and others have not. -/
inductive Passes (assembler : Assembler) (records : List Record) (source : Random.Source) :
    Deck → Prop where
  | state {visits : Nat} {progress : Progress}
      (reached : assembler.Reaches records source visits progress) :
      Passes assembler records source progress.deck
  | pick {visits : Nat} {progress : Progress} {turn : Turn} {front back : List Record}
      {drawn : Random.Source} (reached : assembler.Reaches records source visits progress)
      (missing : progress.total < assembler.settings.minTotal)
      (patient : progress.fruitless < assembler.settings.maxIterations)
      (picked : assembler.Picks progress turn (front ++ back) drawn) :
      Passes assembler records source (assembler.addPicks progress.total front progress.deck 0).1

/-- Every single addition leads to a deck that the assembly passes through. -/
theorem Passes.add {visits : Nat} {progress : Progress} {turn : Turn} {front back : List Record}
    {record : Record} {drawn : Random.Source}
    (reached : assembler.Reaches records source visits progress)
    (missing : progress.total < assembler.settings.minTotal)
    (patient : progress.fruitless < assembler.settings.maxIterations)
    (picked : assembler.Picks progress turn (front ++ record :: back) drawn) {deck : Deck} {added : Nat}
    (done : assembler.addPicks progress.total front progress.deck 0 = (deck, added))
    (room : progress.total + added < assembler.settings.maxTotal)
    (uncapped : assembler.isCapped deck record.id = false) :
    assembler.Passes records source (deck.add record.id 1) := by
  -- The record that is added is the last of the picks that have been dealt with.
  have further : assembler.addPicks progress.total (front ++ [record]) progress.deck 0 =
      (deck.add record.id 1, added + 1) := by
    rw [addPicks_append, done, addPicks, if_neg (by omega), uncapped]
    rfl
  rw [List.append_cons] at picked
  simpa only [further] using Passes.pick reached missing patient picked

/-- Every deck that an assembly passes through is in order. -/
theorem Passes.stocked {deck : Deck} (passed : assembler.Passes records source deck) :
    ∃ total, assembler.Stocked records deck total := by
  cases passed with
  -- Between the visits this is what every state has.
  | state reached => exact ⟨_, reached.sound.stocked⟩
  | pick reached _ _ picked =>
    -- The first picks are records, as all of them are.
    have within := reached.sound.picks_subset picked
    exact ⟨_, (reached.sound.stocked.addPicks
      fun record member => within (List.mem_append_left _ member)).1⟩

/-- Under a copy limit, a deck has no more copies than the capacity of the records. -/
theorem Stocked.le_capacity {deck : Deck} {total : Nat} (stocked : assembler.Stocked records deck total)
    (limited : 0 < assembler.settings.copyThreshold) : total ≤ assembler.capacity records := by
  rw [stocked.tally]
  exact Deck.total_le_of_limited stocked.formed stocked.known (stocked.limited limited)

/-- Under a copy limit every deck that an assembly passes through is within it, and so is the deck that it
gives. Hence a deck is assembled only if its smallest size fits under the limit. -/
theorem assemble_within_limit (limited : 0 < assembler.settings.copyThreshold)
    (records : List Record) (source : Random.Source) :
    (∀ deck, assembler.Passes records source deck →
      deck.Within assembler.settings.copyThreshold) ∧
    ∀ deck, (assembler.assemble records source).1 = .ok deck →
      deck.Within assembler.settings.copyThreshold ∧
        assembler.settings.minTotal ≤
          assembler.settings.copyThreshold * (records.map Record.id).dedup.length := by
  refine ⟨fun deck passed => ?_, fun deck assembled => ?_⟩
  -- Every addition asks for the limit again, so the picks of one visit may repeat a card.
  · obtain ⟨total, stocked⟩ := passed.stocked
    exact stocked.formed.within (stocked.limited limited)
  · obtain ⟨last, filled, rfl⟩ := assemble_ok assembled
    obtain ⟨⟨visits, reached⟩, enough⟩ := fill_ok filled
    have stocked := reached.sound.stocked
    -- What the trim leaves of a card is within the limit, because there was no more before it.
    obtain ⟨formed, lower⟩ := assembler.trimmed_lowers records stocked.formed
    have below : ∀ card, (assembler.trimmed records last.deck).quantity card ≤
        assembler.settings.copyThreshold :=
      fun card => (lower card).trans (stocked.limited limited card)
    -- The filled deck has the smallest size already, and no more copies than the limit allows.
    refine ⟨formed.within below, enough.trans ((stocked.le_capacity limited).trans_eq ?_)⟩
    exact Nat.mul_comm _ _

/-- An assembler that picks three records at a time and allows one copy of each card. -/
def repeating : Assembler where
  settings := { minTotal := 2, maxTotal := 3, copyThreshold := 1 }
  slots := [{ policy := .mostPoints, quantity := .exactly 3 }]

/-- Of two records of one card in a pick list, only the first one is added. -/
theorem assemble_within_limit_repeating :
    (repeating.assemble [bare 1, bare 1, bare 2] (.ofSeed 0)).1 =
        .ok (.ofEntries [⟨⟨1⟩, 1⟩, ⟨⟨2⟩, 1⟩]) ∧
      Deck.Within (.ofEntries [⟨⟨1⟩, 1⟩]) 1 ∧ Deck.Within (.ofEntries [⟨⟨1⟩, 1⟩, ⟨⟨2⟩, 1⟩]) 1 ∧
      2 ≤ 1 * [CardId.mk 1, ⟨1⟩, ⟨2⟩].dedup.length := by
  have next : repeating.nextTurn none (.ofSeed 0) = (.slot 0, .ofSeed 0) := rfl
  have active : (repeating.slotFor (.slot 0)).activates (.ofSeed 0) = (true, .ofSeed 0) := rfl
  -- The slot scores nothing, so it picks all records in their order.
  have picked : repeating.picksFor (.slot 0) (repeating.slotFor (.slot 0))
      (repeating.openPool .empty [bare 1, bare 1, bare 2]) 2 (.ofSeed 0) =
        (.ok [bare 1, bare 1, bare 2], .ofSeed 0) :=
    (repeating.slotFor (.slot 0)).select_unscored rfl rfl rfl rfl (by decide)
      repeating.settings.caseMode (repeating.openPool .empty [bare 1, bare 1, bare 2]) (some 2)
      (.ofSeed 0)
  have assembled : (repeating.assemble [bare 1, bare 1, bare 2] (.ofSeed 0)).1 =
      .ok (.ofEntries [⟨⟨1⟩, 1⟩, ⟨⟨2⟩, 1⟩]) := by
    unfold assemble
    rw [fill_of_picks next active picked (by decide) (by decide) (by decide)]
    rfl
  have all : repeating.Picks (start [bare 1, bare 1, bare 2] (.ofSeed 0)) (.slot 0)
      ([bare 1, bare 1] ++ [bare 2]) (.ofSeed 0) := .active next active picked
  -- Behind the second record, which is passed over, there is still one card.
  have passed : repeating.Passes [bare 1, bare 1, bare 2] (.ofSeed 0) (.ofEntries [⟨⟨1⟩, 1⟩]) :=
    .pick .start (by decide) (by decide) all
  obtain ⟨middle, final⟩ := @assemble_within_limit repeating (by decide)
    [bare 1, bare 1, bare 2] (.ofSeed 0)
  exact ⟨assembled, middle _ passed, final _ assembled⟩

end Assembler

end Decksmith
