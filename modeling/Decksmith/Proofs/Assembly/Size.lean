import Decksmith.Proofs.Assembly.Sound
import Decksmith.Proofs.Assembly.Trim
import Decksmith.Proofs.Binary64.Share

/-! The size of an assembled deck lies in its window, before the trim and after it. -/

namespace Decksmith.Assembler

variable {assembler : Assembler} {records : List Record} {source : Random.Source}

/-- The trim may remove no more copies than are beyond the smallest size. -/
theorem trimBudget_le {settings : Settings} {total : Nat}
    (few : total - settings.minTotal < 2 ^ 53) :
    trimBudget settings total ≤ total - settings.minTotal := by
  -- A deck within its smallest size has no excess, and a share of the excess does not exceed it.
  unfold trimBudget
  split
  · exact Nat.zero_le _
  · exact Binary64.share_le few settings.trimFraction

/-- The trim keeps a deck at its smallest size or above. -/
theorem total_trimmed {deck : Deck} (formed : deck.WellFormed)
    (enough : assembler.settings.minTotal ≤ deck.total)
    (few : deck.total - assembler.settings.minTotal < 2 ^ 53) :
    assembler.settings.minTotal ≤ (assembler.trimmed records deck).total ∧
      (assembler.trimmed records deck).total ≤ deck.total := by
  unfold trimmed
  cases filtered : assembler.trim with
  | none =>
    rw [trimCopies, filtered]
    exact ⟨enough, Nat.le_refl _⟩
  | some filter =>
    -- No more copies go than the budget allows, and the budget is within the excess.
    obtain ⟨counted, front⟩ := trimCopies_front filtered formed records
    have budget := trimBudget_le few
    have fewer := front.fewer
    omega

/-- An assembled deck has a size in its window, also after the trim. The trim computes with doubles, so
the excess that it works on has at most 53 bits. -/
theorem assemble_total_window {deck : Deck}
    (assembled : (assembler.assemble records source).1 = .ok deck)
    (few : ∀ last, (assembler.fill (start records source)).1 = .ok last →
      last.deck.total - assembler.settings.minTotal < 2 ^ 53) :
    assembler.settings.minTotal ≤ deck.total ∧ deck.total ≤ assembler.settings.maxTotal := by
  obtain ⟨last, filled, rfl⟩ := assemble_ok assembled
  obtain ⟨⟨visits, reached⟩, enough⟩ := fill_ok filled
  -- The running total is that of the deck, and it has never passed the largest size.
  have tally := reached.sound.stocked.tally
  have room := reached.sound.stocked.room
  have kept := @total_trimmed assembler records last.deck reached.sound.stocked.formed (by omega)
    (few last filled)
  omega

/-- An assembler that picks two records where one is enough, and trims all that it may. -/
def overfilling : Assembler where
  settings := { minTotal := 1, maxTotal := 3, trimFraction := 1.0 }
  slots := [{ policy := .mostPoints, quantity := .exactly 2 }]
  trim := some (.test ⟨.name, .none, .notEqual, "a"⟩)

/-- The only visit of this assembler picks both records in their order. -/
theorem fill_overfilling (seed : Random.Source) :
    overfilling.fill (start [bare 1, bare 2] seed) =
      (.ok ⟨[bare 1, bare 2], .ofEntries [⟨⟨1⟩, 1⟩, ⟨⟨2⟩, 1⟩], 2, some (.slot 0), 0, seed⟩, seed) := by
  have next : overfilling.nextTurn none seed = (.slot 0, seed) := rfl
  have active : (overfilling.slotFor (.slot 0)).activates seed = (true, seed) := rfl
  -- Both records score nothing, so they are picked in their order.
  have picked : overfilling.picksFor (.slot 0) (overfilling.slotFor (.slot 0))
      (overfilling.openPool .empty [bare 1, bare 2]) 1 seed = (.ok [bare 1, bare 2], seed) :=
    (overfilling.slotFor (.slot 0)).select_unscored rfl rfl rfl rfl (by decide)
      overfilling.settings.caseMode (overfilling.openPool .empty [bare 1, bare 2]) (some 1) seed
  exact fill_of_picks next active picked (by decide) (by decide) (by decide)

/-- One of the two records is beyond the smallest size, and the trim removes it. -/
theorem assemble_total_window_overfilling :
    (overfilling.assemble [bare 1, bare 2] (.ofSeed 0)).1 = .ok (.ofEntries [⟨⟨2⟩, 1⟩]) ∧
      1 ≤ Deck.total (.ofEntries [⟨⟨2⟩, 1⟩]) ∧ Deck.total (.ofEntries [⟨⟨2⟩, 1⟩]) ≤ 3 := by
  have assembled : (overfilling.assemble [bare 1, bare 2] (.ofSeed 0)).1 = .ok (.ofEntries [⟨⟨2⟩, 1⟩]) := by
    unfold assemble
    rw [fill_overfilling]
    rfl
  -- The filled deck has one copy more than the smallest size.
  refine ⟨assembled, assemble_total_window assembled fun last filled => ?_⟩
  rw [fill_overfilling] at filled
  cases filled
  decide

end Decksmith.Assembler
