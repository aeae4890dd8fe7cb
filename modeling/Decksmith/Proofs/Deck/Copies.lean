import Decksmith.Proofs.Deck.Index
import Mathlib.Data.List.Dedup
import Mathlib.Data.List.Perm.Subperm
import Mathlib.Algebra.Order.BigOperators.Group.List
import Mathlib.Algebra.Order.Ring.Nat

/-! Adding and removing copies changes one card's quantity, and the total by the same amount. -/

namespace Decksmith.Deck

/-- The number of copies of a card in some entries. -/
def copiesIn (card : CardId) (entries : List DeckEntry) : Nat :=
  (entries.map fun entry => if entry.card = card then entry.quantity else 0).sum

@[simp] theorem copiesIn_nil (card : CardId) : copiesIn card [] = 0 := rfl

@[simp] theorem copiesIn_cons (card : CardId) (entry : DeckEntry) (others : List DeckEntry) :
    copiesIn card (entry :: others) =
      (if entry.card = card then entry.quantity else 0) + copiesIn card others := by
  simp [copiesIn]

@[simp] theorem copiesIn_append (card : CardId) (front back : List DeckEntry) :
    copiesIn card (front ++ back) = copiesIn card front + copiesIn card back := by
  simp [copiesIn]

/-- Entries of other cards hold no copies of a card. -/
theorem copiesIn_of_not_mem {card : CardId} {entries : List DeckEntry}
    (absent : card ∉ entries.map DeckEntry.card) : copiesIn card entries = 0 := by
  -- No entry adds anything, because each is of another card.
  induction entries with
  | nil => rfl
  | cons entry others ih =>
    have parts : entry.card ≠ card ∧ card ∉ others.map DeckEntry.card := by
      simpa [eq_comm, not_or] using absent
    rw [copiesIn_cons, if_neg parts.1, ih parts.2]

variable {deck : Deck}

/-- The other entries of a well-formed deck hold no copies of a card. -/
theorem Located.copiesIn_others {card : CardId} {before after : List DeckEntry} {quantity : Nat}
    (located : deck.Located card before quantity after) (formed : deck.WellFormed) :
    copiesIn card before = 0 ∧ copiesIn card after = 0 :=
  (located.fresh formed).imp copiesIn_of_not_mem copiesIn_of_not_mem

/-- The index finds all copies of a card. -/
theorem WellFormed.quantity_eq (formed : deck.WellFormed) (card : CardId) :
    deck.quantity card = copiesIn card deck.entries := by
  by_cases member : card ∈ deck.cards
  -- A card of the deck has one entry, and none of the others holds copies of it.
  · obtain ⟨before, quantity, after, located⟩ := formed.located member
    obtain ⟨front, back⟩ := located.copiesIn_others formed
    simp [located.quantity_eq, located.entries, front, back]
  · rw [formed.quantity_of_not_mem member, copiesIn_of_not_mem member]

@[simp] theorem quantity_empty (card : CardId) : empty.quantity card = 0 := by
  rw [empty_wellFormed.quantity_eq]
  rfl

/-- The total is the sum of all quantities. -/
theorem total_eq_sum (deck : Deck) : deck.total = (deck.entries.map DeckEntry.quantity).sum := by
  simp [total, List.sum, List.foldr_map]

/-- Adding copies raises the total by their number. -/
theorem total_add (formed : deck.WellFormed) (card : CardId) (count : Nat) :
    (deck.add card count).total = deck.total + count := by
  -- An entry gets more copies, a further entry comes behind the others, or nothing happens.
  unfold add
  rcases formed.addCopies_cases card count with
    ⟨before, quantity, after, located, added⟩ | ⟨-, -, added⟩ | ⟨-, nothing, added⟩
  · simp only [added, total_eq_sum, located.entries, List.map_append, List.map_cons,
      List.sum_append, List.sum_cons]
    omega
  · simp [added, total_eq_sum]
  · rw [added, nothing, Nat.add_zero]

/-- Adding copies of a card changes no other quantity. -/
theorem quantity_add (formed : deck.WellFormed) (card other : CardId) (count : Nat) :
    (deck.add card count).quantity other =
      deck.quantity other + if card = other then count else 0 := by
  -- Quantities are found through the index, so they are counted in the entries instead.
  rw [(formed.add card count).quantity_eq, formed.quantity_eq]
  unfold add
  rcases formed.addCopies_cases card count with
    ⟨before, quantity, after, located, added⟩ | ⟨-, -, added⟩ | ⟨-, nothing, added⟩
  · simp only [added, located.entries, copiesIn_append, copiesIn_cons]
    split <;> omega
  · simp [added]
  · rw [added]
    simp [nothing]

/-- Cards that are added one after the other get their copies as often as they come. -/
theorem quantity_foldl_add (formed : deck.WellFormed) (copies : Nat) (cards : List CardId) :
    (cards.foldl (fun deck card => deck.add card copies) deck).WellFormed ∧
    ∀ card, (cards.foldl (fun deck card => deck.add card copies) deck).quantity card =
      deck.quantity card + copies * cards.count card := by
  induction cards generalizing deck with
  | nil => exact ⟨formed, fun _ => rfl⟩
  | cons first others ih =>
    obtain ⟨kept, counted⟩ := ih (formed.add first copies)
    refine ⟨kept, fun card => ?_⟩
    rw [List.foldl_cons, counted, quantity_add formed, List.count_cons, Nat.mul_add]
    -- The first card is one more of its kind, and none of any other.
    by_cases same : first = card
    · simp [same, Nat.add_assoc, Nat.add_comm copies]
    · simp [same]

/-- They raise the total by as many copies each. -/
theorem total_foldl_add (formed : deck.WellFormed) (copies : Nat) (cards : List CardId) :
    (cards.foldl (fun deck card => deck.add card copies) deck).total =
      deck.total + copies * cards.length := by
  -- Every addition leaves a well-formed deck to the next one.
  induction cards generalizing deck with
  | nil => rfl
  | cons first others ih =>
    rw [List.foldl_cons, ih (formed.add first copies), total_add formed, List.length_cons, Nat.mul_succ]
    omega

/-- A card has copies just when it is in the deck. -/
theorem WellFormed.quantity_eq_zero_iff (formed : deck.WellFormed) {card : CardId} :
    deck.quantity card = 0 ↔ card ∉ deck.cards := by
  refine ⟨fun none member => ?_, formed.quantity_of_not_mem⟩
  obtain ⟨before, quantity, after, located⟩ := formed.located member
  -- The entry of the card would be one without copies.
  have stocked := formed.stocked ⟨card, quantity⟩ (by simp [located.entries])
  rw [located.quantity_eq] at none
  exact Nat.ne_of_gt stocked none

/-- An addition tells the quantity that the card has from then on. -/
theorem addCopies_fst (formed : deck.WellFormed) (card : CardId) (count : Nat) :
    (deck.addCopies card count).1 = deck.quantity card + count := by
  -- An addition raises an entry, makes a new one, or does nothing for lack of copies.
  rcases formed.addCopies_cases card count with
    ⟨before, quantity, after, located, added⟩ | ⟨absent, -, added⟩ | ⟨absent, nothing, added⟩
  · rw [added, located.quantity_eq]
  · rw [added, formed.quantity_of_not_mem absent, Nat.zero_add]
  · rw [added, formed.quantity_of_not_mem absent, nothing]

/-- A card that is new comes behind all others, and otherwise an addition changes no place. -/
theorem cards_add (formed : deck.WellFormed) (card : CardId) (count : Nat) :
    (deck.add card count).cards =
      if card ∈ deck.cards ∨ count = 0 then deck.cards else deck.cards ++ [card] := by
  -- Only the new entry changes the list of cards, and it comes last.
  unfold add
  rcases formed.addCopies_cases card count with
    ⟨before, quantity, after, located, added⟩ | ⟨absent, some, added⟩ | ⟨-, nothing, added⟩
  · have member : card ∈ deck.cards := by simp [cards, located.entries]
    rw [if_pos (.inl member), added]
    simp [cards, located.entries]
  · rw [if_neg (not_or.mpr ⟨absent, Nat.ne_of_gt some⟩), added]
    simp [cards]
  · rw [if_pos (.inr nothing), added]

/-- The cards after an addition are those from before and the card that was added. -/
theorem mem_cards_add (formed : deck.WellFormed) {card other : CardId} {count : Nat}
    (member : other ∈ (deck.add card count).cards) : other = card ∨ other ∈ deck.cards := by
  -- Either no card came in, or the one that was added did.
  rw [cards_add formed] at member
  split at member
  · exact .inr member
  · simpa [or_comm] using member

/-- A removal lowers the total by the number of copies that it takes. -/
theorem total_remove (formed : deck.WellFormed) (card : CardId) (count : Nat) :
    (deck.remove card count).total + min count (deck.quantity card) = deck.total := by
  -- An entry keeps some of its copies, it goes with all of them, or there is none.
  unfold remove
  rcases formed.removeCopies_cases card count with
    ⟨before, quantity, after, located, fewer, removed⟩ | ⟨before, quantity, after, located, all, removed⟩ |
    ⟨absent, removed⟩
  · simp only [removed, total_eq_sum, located.quantity_eq, located.entries, List.map_append,
      List.map_cons, List.sum_append, List.sum_cons]
    omega
  · simp only [removed, total_eq_sum, located.quantity_eq, located.entries, indexing,
      List.map_append, List.map_cons, List.sum_append, List.sum_cons]
    omega
  · rw [removed, formed.quantity_of_not_mem absent, Nat.min_zero, Nat.add_zero]

/-- Removing copies of a card changes no other quantity. -/
theorem quantity_remove (formed : deck.WellFormed) (card other : CardId) (count : Nat) :
    (deck.remove card count).quantity other =
      deck.quantity other - if card = other then count else 0 := by
  rw [(formed.remove card count).quantity_eq, formed.quantity_eq]
  unfold remove
  rcases formed.removeCopies_cases card count with
    ⟨before, quantity, after, located, fewer, removed⟩ | ⟨before, quantity, after, located, all, removed⟩ |
    ⟨absent, removed⟩
  · -- The entries around that of the card have no copies of it.
    obtain ⟨front, back⟩ := located.copiesIn_others formed
    by_cases same : card = other
    · subst same
      simp [removed, located.entries, front, back]
    · simp [removed, located.entries, same]
  · obtain ⟨front, back⟩ := located.copiesIn_others formed
    by_cases same : card = other
    · subst same
      simp [removed, located.entries, indexing, front, back, all]
    · simp [removed, located.entries, indexing, same]
  -- A card that is not in the deck has no copies to lose.
  · by_cases same : card = other
    · subst same
      simp [removed, copiesIn_of_not_mem absent]
    · simp [removed, same]

/-- A removal tells how many copies it has taken. -/
theorem removeCopies_fst (formed : deck.WellFormed) (card : CardId) (count : Nat) :
    (deck.removeCopies card count).1 = min count (deck.quantity card) := by
  -- An entry gives what is asked for or all that it has, and a missing one gives nothing.
  rcases formed.removeCopies_cases card count with
    ⟨before, quantity, after, located, fewer, removed⟩ | ⟨before, quantity, after, located, all, removed⟩ |
    ⟨absent, removed⟩
  · rw [removed, located.quantity_eq, Nat.min_eq_left fewer.le]
  · rw [removed, located.quantity_eq, Nat.min_eq_right all]
  · rw [removed, formed.quantity_of_not_mem absent, Nat.min_zero]

/-- Without a card among some others there is nothing to filter out. -/
theorem filter_ne_of_not_mem {card : CardId} {cards : List CardId} (absent : card ∉ cards) :
    cards.filter (· ≠ card) = cards := by
  refine List.filter_eq_self.mpr fun other member => ?_
  simpa using fun same : other = card => absent (same ▸ member)

/-- A card that loses all its copies loses its place, and the others keep their order. -/
theorem cards_remove (formed : deck.WellFormed) (card : CardId) (count : Nat) :
    (deck.remove card count).cards =
      if deck.quantity card ≤ count then deck.cards.filter (· ≠ card) else deck.cards := by
  unfold remove
  rcases formed.removeCopies_cases card count with
    ⟨before, quantity, after, located, fewer, removed⟩ | ⟨before, quantity, after, located, all, removed⟩ |
    ⟨absent, removed⟩
  · rw [located.quantity_eq, if_neg (by omega), removed]
    simp [cards, located.entries]
  · rw [located.quantity_eq, if_pos all, removed, cards, cards, located.entries]
    -- The other entries are those of other cards, so only this one is filtered out.
    obtain ⟨front, back⟩ := located.fresh formed
    rw [List.map_append, List.map_cons, List.filter_append, List.filter_cons_of_neg (by simp),
      filter_ne_of_not_mem front, filter_ne_of_not_mem back]
    exact List.map_append
  · rw [formed.quantity_of_not_mem absent, if_pos (Nat.zero_le _), removed,
      filter_ne_of_not_mem absent]

/-- Each entry of a well-formed deck tells the quantity of its card. -/
theorem WellFormed.quantity_of_mem (formed : deck.WellFormed) {entry : DeckEntry}
    (member : entry ∈ deck.entries) : deck.quantity entry.card = entry.quantity := by
  obtain ⟨position, found⟩ := List.mem_iff_getElem?.mp member
  -- The index leads to the place where the entry has been met.
  have indexed := (formed.indexed entry.card position).mpr (by simp [cards, found])
  simp [quantity, indexed, quantityAt, found]

/-- Without two entries for a card, the total is the sum of the quantities of the cards. -/
theorem total_eq_sum_quantity (formed : deck.WellFormed) :
    deck.total = (deck.cards.map deck.quantity).sum := by
  rw [total_eq_sum, cards, List.map_map]
  refine congrArg List.sum (List.map_congr_left fun entry member => ?_)
  exact (formed.quantity_of_mem member).symm

/-- A deck of some cards has no more copies than a limit on each of them allows. -/
theorem total_le_of_limited {known : List CardId} {limit : Nat} (formed : deck.WellFormed)
    (within : deck.cards ⊆ known) (limited : ∀ card, deck.quantity card ≤ limit) :
    deck.total ≤ known.dedup.length * limit := by
  -- Different cards among the known ones are no more than these.
  have fewer : deck.cards.length ≤ known.dedup.length :=
    (formed.distinct.subperm fun card member => List.mem_dedup.mpr (within member)).length_le
  have most : deck.total ≤ deck.cards.length * limit := by
    rw [total_eq_sum_quantity formed]
    simpa using List.sum_le_card_nsmul (deck.cards.map deck.quantity) limit
      (by simpa using fun card _ => limited card)
  exact Nat.le_trans most (Nat.mul_le_mul_right limit fewer)

/-- A deck that has reached the limit on each of some cards has as many copies as it allows. -/
theorem le_total_of_full {known : List CardId} {limit : Nat} (formed : deck.WellFormed)
    (positive : 0 < limit) (full : ∀ card ∈ known, limit ≤ deck.quantity card) :
    known.dedup.length * limit ≤ deck.total := by
  -- A card at its limit has copies, so it is in the deck.
  have present : known.dedup ⊆ deck.cards := by
    intro card member
    by_contra absent
    have := full card (List.mem_dedup.mp member)
    rw [formed.quantity_of_not_mem absent] at this
    omega
  -- The known cards are then some of the deck's, and some sum up to no more than all.
  obtain ⟨cards, same, part⟩ := (List.nodup_dedup known).subperm present
  calc known.dedup.length * limit
      ≤ (known.dedup.map deck.quantity).sum := by
        simpa using List.card_nsmul_le_sum (known.dedup.map deck.quantity) limit
          (by simpa using fun card member => full card member)
    _ = (cards.map deck.quantity).sum := ((same.map deck.quantity).sum_eq).symm
    _ ≤ (deck.cards.map deck.quantity).sum := (part.map deck.quantity).sum_le_sum (by simp)
    _ = deck.total := (total_eq_sum_quantity formed).symm

end Decksmith.Deck
