import Decksmith.Proofs.Assembly.Run

/-! What holds of the deck, its running total and the pool in every state of an assembly. -/

namespace Decksmith.Assembler

variable {assembler : Assembler} {records : List Record} {source : Random.Source}

/-- What holds of a deck and its running total after every single addition. -/
structure Stocked (assembler : Assembler) (records : List Record) (deck : Deck) (total : Nat) :
    Prop where
  /-- The running total counts the copies in the deck. -/
  tally : total = deck.total
  room : total ≤ assembler.settings.maxTotal
  formed : deck.WellFormed
  /-- Every card in the deck is the card of some record. -/
  known : deck.cards ⊆ records.map Record.id
  limited : 0 < assembler.settings.copyThreshold →
    ∀ card, deck.quantity card ≤ assembler.settings.copyThreshold

/-- Adding one copy of a record that is below the copy limit keeps the deck in order. -/
theorem Stocked.add {deck : Deck} {total : Nat} (stocked : assembler.Stocked records deck total)
    {record : Record} (member : record ∈ records) (room : total < assembler.settings.maxTotal)
    (uncapped : assembler.isCapped deck record.id = false) :
    assembler.Stocked records (deck.add record.id 1) (total + 1) where
  tally := by rw [Deck.total_add stocked.formed, ← stocked.tally]
  room := room
  formed := stocked.formed.add record.id 1
  known := by
    intro card added
    -- The card is that of the record which is added, or was there before.
    rcases Deck.mem_cards_add stocked.formed added with rfl | earlier
    · exact List.mem_map_of_mem member
    · exact stocked.known earlier
  limited := by
    intro limit card
    -- The card that grows was below the limit, and all others keep their quantity.
    have below : ¬ assembler.settings.copyThreshold ≤ deck.quantity record.id := by
      simpa [isCapped, limit] using uncapped
    rw [Deck.quantity_add stocked.formed]
    split
    · rename_i same
      subst same
      omega
    · exact stocked.limited limit card

/-- Adding picks keeps the deck in order and lowers no quantity. -/
theorem Stocked.addPicks {deck : Deck} {total : Nat} (stocked : assembler.Stocked records deck total)
    {picks : List Record} (within : picks ⊆ records) :
    assembler.Stocked records (assembler.addPicks total picks deck 0).1
        (total + (assembler.addPicks total picks deck 0).2) ∧
      ∀ card, deck.quantity card ≤ (assembler.addPicks total picks deck 0).1.quantity card := by
  -- Both are kept by every single addition.
  have step : ∀ record ∈ picks, ∀ grown added,
      (assembler.Stocked records grown (total + added) ∧
        ∀ card, deck.quantity card ≤ grown.quantity card) →
      total + added < assembler.settings.maxTotal → assembler.isCapped grown record.id = false →
      assembler.Stocked records (grown.add record.id 1) (total + (added + 1)) ∧
        ∀ card, deck.quantity card ≤ (grown.add record.id 1).quantity card := by
    intro record member grown added ⟨stocked, grows⟩ room uncapped
    refine ⟨stocked.add (within member) room uncapped, fun card => ?_⟩
    have := grows card
    rw [Deck.quantity_add stocked.formed]
    omega
  -- The count of a visit starts from zero.
  exact assembler.addPicks_preserves total step ⟨stocked, fun card => Nat.le_refl _⟩

/-- What holds of an assembly in each of its states. -/
structure Sound (assembler : Assembler) (records : List Record) (progress : Progress) : Prop where
  stocked : assembler.Stocked records progress.deck progress.total
  /-- Shrinking the pool finds the same records as searching all of them again. -/
  current : assembler.openPool progress.deck progress.pool =
    assembler.openPool progress.deck records

/-- The assembly starts with an empty deck and all records. -/
theorem start_sound : assembler.Sound records (start records source) where
  stocked := ⟨rfl, Nat.zero_le _, Deck.empty_wellFormed, List.nil_subset _, by simp [start]⟩
  current := rfl

/-- A pool that has shrunk once shrinks further as the quantities grow. -/
theorem openPool_openPool {deck grown : Deck}
    (grows : ∀ card, deck.quantity card ≤ grown.quantity card) (pool : List Record) :
    assembler.openPool grown (assembler.openPool deck pool) = assembler.openPool grown pool := by
  unfold openPool
  rw [List.filter_filter]
  refine List.filter_congr fun record _ => ?_
  -- What is at its limit stays there, so the earlier condition is implied by the later one.
  have := grows record.id
  by_cases capped : assembler.isCapped grown record.id
  · simp [capped]
  · have uncapped : assembler.isCapped deck record.id = false := by
      simp only [isCapped, Bool.and_eq_true, decide_eq_true_eq, not_and] at capped ⊢
      simp only [Bool.and_eq_false_iff, decide_eq_false_iff_not]
      omega
    simp [capped, uncapped]

/-- What is picked at a visit are some of the records. -/
theorem Sound.picks_subset {progress : Progress} (sound : assembler.Sound records progress)
    {turn : Turn} {picks : List Record} {drawn : Random.Source}
    (picked : assembler.Picks progress turn picks drawn) : picks ⊆ records := by
  have within := picked.subset
  -- The pool has the same records as a search among all of them.
  rw [sound.current] at within
  exact fun record member => List.mem_of_mem_filter (within member)

/-- Every visit keeps the assembly in order. -/
theorem Sound.after {progress : Progress} (sound : assembler.Sound records progress)
    {done : Visit} {drawn : Random.Source} (visited : assembler.visit progress = (.ok done, drawn)) :
    assembler.Sound records (progress.after done drawn) := by
  obtain ⟨turn, picks, picked, rfl⟩ := visit_picks visited
  obtain ⟨stocked, grows⟩ := sound.stocked.addPicks (sound.picks_subset picked)
  refine ⟨stocked, ?_⟩
  -- Opening the pool again with the grown deck leaves what the grown deck alone would leave.
  simp only [Progress.after, sound.current]
  exact openPool_openPool grows records

/-- Every state of an assembly is in order. -/
theorem Reaches.sound {visits : Nat} {progress : Progress}
    (reached : assembler.Reaches records source visits progress) :
    assembler.Sound records progress := by
  -- The induction is on the visits.
  induction reached with
  | start => exact start_sound
  | visit _ _ _ visited ih => exact ih.after visited

end Decksmith.Assembler
