import Decksmith.Deck.Basic
import Mathlib.Data.List.Nodup

/-! The index of a deck stays in step with its entries, whatever is added or removed. -/

namespace Decksmith.Deck

/-- The different cards of a deck, in the order in which they came in. -/
def cards (deck : Deck) : List CardId :=
  deck.entries.map DeckEntry.card

/-- The index leads to every card at its position and to nothing else, and no entry is without copies. -/
structure WellFormed (deck : Deck) : Prop where
  indexed : ∀ (card : CardId) (position : Nat),
    deck.index[card]? = some position ↔ deck.cards[position]? = some card
  stocked : ∀ entry ∈ deck.entries, 0 < entry.quantity

variable {deck : Deck} {card : CardId}

/-- No card of a well-formed deck has two entries. -/
theorem WellFormed.distinct (formed : deck.WellFormed) : deck.cards.Nodup := by
  rw [List.nodup_iff_getElem?_ne_getElem?]
  intro i j less within same
  -- The index has one position for the card, which would be both.
  have first : deck.cards[i]? = some deck.cards[i] := List.getElem?_eq_getElem (by omega)
  have second : deck.cards[j]? = some deck.cards[i] := same ▸ first
  rw [← formed.indexed] at first second
  rw [first] at second
  cases second
  exact Nat.lt_irrefl i less

/-- Well-formed decks with the same entries have the same index. -/
theorem WellFormed.ext {other : Deck} (formed : deck.WellFormed) (also : other.WellFormed)
    (same : deck.entries = other.entries) : deck = other := by
  -- Both indices hold the positions of the same cards.
  have index : deck.index = other.index := by
    refine Std.ExtTreeMap.ext_getElem? fun card => Option.ext fun position => ?_
    rw [formed.indexed, also.indexed, cards, cards, same]
  obtain ⟨entries, _⟩ := deck
  obtain ⟨_, _⟩ := other
  simp_all

/-- The index has no position for a card that is not in the deck. -/
theorem WellFormed.index_eq_none (formed : deck.WellFormed) (absent : card ∉ deck.cards) :
    deck.index[card]? = none := by
  refine Option.eq_none_iff_forall_ne_some.mpr fun position found => absent ?_
  exact List.mem_of_getElem? ((formed.indexed card position).mp found)

/-- An index that is made anew leads to every card, if the cards are distinct. -/
theorem indexing_wellFormed {entries : List DeckEntry}
    (distinct : (entries.map DeckEntry.card).Nodup)
    (stocked : ∀ entry ∈ entries, 0 < entry.quantity) : (indexing entries).WellFormed where
  stocked := stocked
  indexed card position := by
    show (Std.ExtTreeMap.ofList (entries.map DeckEntry.card).zipIdx compare)[card]? = _ ↔
      (entries.map DeckEntry.card)[position]? = _
    generalize entries.map DeckEntry.card = cards at distinct
    -- Distinct cards are distinct keys, so no later position overwrites an earlier one.
    have listed : cards.zipIdx.Pairwise fun a b => ¬ compare a.1 b.1 = .eq := by
      have : (cards.zipIdx.map Prod.fst).Nodup := by simpa using distinct
      rw [List.Nodup, List.pairwise_map] at this
      exact this.imp fun differ same => differ (Std.LawfulEqOrd.eq_of_compare same)
    by_cases member : card ∈ cards
    · -- A card that is listed is found where it is listed, which is one place only.
      obtain ⟨place, found⟩ := List.mem_iff_getElem?.mp member
      rw [Std.ExtTreeMap.getElem?_ofList_of_mem Std.ReflOrd.compare_self listed
        (List.mk_mem_zipIdx_iff_getElem?.mpr found), Option.some_inj]
      obtain ⟨within, -⟩ := List.getElem?_eq_some_iff.mp found
      exact ⟨fun same => same ▸ found,
        fun also => (List.getElem?_inj within distinct).mp (found.trans also.symm)⟩
    -- A card that is not listed is no key.
    · have unlisted : (cards.zipIdx.map Prod.fst).contains card = false := by simpa using member
      rw [Std.ExtTreeMap.getElem?_ofList_of_contains_eq_false unlisted]
      exact ⟨nofun, fun also => absurd (List.mem_of_getElem? also) member⟩

/-- Where a card has its entry: the entries in front of it, its copies, and the entries behind it. -/
structure Located (deck : Deck) (card : CardId) (before : List DeckEntry) (quantity : Nat)
    (after : List DeckEntry) : Prop where
  entries : deck.entries = before ++ ⟨card, quantity⟩ :: after
  found : deck.index[card]? = some before.length

variable {before after : List DeckEntry} {quantity count : Nat}

/-- Every card of a well-formed deck has its entry. -/
theorem WellFormed.located (formed : deck.WellFormed) (member : card ∈ deck.cards) :
    ∃ before quantity after, deck.Located card before quantity after := by
  -- The entry stands somewhere among the others, and the index knows where.
  obtain ⟨⟨_, quantity⟩, present, rfl⟩ := List.mem_map.mp member
  obtain ⟨before, after, entries⟩ := List.append_of_mem present
  refine ⟨before, quantity, after, entries, (formed.indexed _ _).mpr ?_⟩
  simp [cards, entries]

/-- The entries around that of a card belong to other cards. -/
theorem Located.fresh (located : deck.Located card before quantity after)
    (formed : deck.WellFormed) :
    card ∉ before.map DeckEntry.card ∧ card ∉ after.map DeckEntry.card := by
  -- No card has two entries.
  have distinct := formed.distinct
  rw [cards, located.entries, List.map_append, List.map_cons, List.nodup_middle, List.nodup_cons,
    List.mem_append, not_or] at distinct
  exact distinct.1

/-- Changing the entry behind some others changes no other. -/
theorem modify_located (before after : List DeckEntry) (entry : DeckEntry)
    (change : DeckEntry → DeckEntry) :
    (before ++ entry :: after).modify before.length change = before ++ change entry :: after := by
  rw [List.modify_eq_take_cons_drop (by simp)]
  simp

/-- The entry of a card tells its quantity. -/
theorem Located.quantity_eq (located : deck.Located card before quantity after) :
    deck.quantity card = quantity := by
  simp [Deck.quantity, located.found, quantityAt, located.entries]

/-- A card without an entry has no copies. -/
theorem WellFormed.quantity_of_not_mem (formed : deck.WellFormed) (absent : card ∉ deck.cards) :
    deck.quantity card = 0 := by
  simp [quantity, formed.index_eq_none absent]

/-- Adding copies raises the quantity of a card's entry, or makes an entry behind the others. -/
theorem WellFormed.addCopies_cases (formed : deck.WellFormed) (card : CardId) (count : Nat) :
    (∃ before quantity after, deck.Located card before quantity after ∧
      deck.addCopies card count = (quantity + count,
        { deck with entries := before ++ ⟨card, quantity + count⟩ :: after })) ∨
    (card ∉ deck.cards ∧ 0 < count ∧ deck.addCopies card count =
      (count, ⟨deck.entries ++ [⟨card, count⟩], deck.index.insert card deck.entries.length⟩)) ∨
    (card ∉ deck.cards ∧ count = 0 ∧ deck.addCopies card count = (0, deck)) := by
  -- The index tells whether the card has an entry, and a count of zero makes none.
  by_cases member : card ∈ deck.cards
  · obtain ⟨before, quantity, after, located⟩ := formed.located member
    refine .inl ⟨before, quantity, after, located, ?_⟩
    by_cases nothing : count = 0
    · -- Without further copies the entry is the one that was there.
      simp [addCopies, nothing, located.quantity_eq, ← located.entries]
    · simp [addCopies, nothing, located.found, located.entries, modify_located, quantityAt]
  · have unknown := formed.index_eq_none member
    rcases Nat.eq_zero_or_pos count with nothing | some
    · exact .inr (.inr ⟨member, nothing, by simp [addCopies, nothing, quantity, unknown]⟩)
    · exact .inr (.inl ⟨member, some, by simp [addCopies, Nat.ne_of_gt some, unknown]⟩)

/-- Removing copies lowers the quantity of a card's entry, or removes the entry with all that it has. -/
theorem WellFormed.removeCopies_cases (formed : deck.WellFormed) (card : CardId) (count : Nat) :
    (∃ before quantity after, deck.Located card before quantity after ∧ count < quantity ∧
      deck.removeCopies card count = (count,
        { deck with entries := before ++ ⟨card, quantity - count⟩ :: after })) ∨
    (∃ before quantity after, deck.Located card before quantity after ∧ quantity ≤ count ∧
      deck.removeCopies card count = (quantity, indexing (before ++ after))) ∨
    (card ∉ deck.cards ∧ deck.removeCopies card count = (0, deck)) := by
  by_cases member : card ∈ deck.cards
  · obtain ⟨before, quantity, after, located⟩ := formed.located member
    -- An entry that keeps copies is changed in place, and one that loses all of them is erased.
    rcases Nat.lt_or_ge count quantity with fewer | all
    · refine .inl ⟨before, quantity, after, located, fewer, ?_⟩
      have taken : min count quantity = count := by omega
      have left : quantity - count ≠ 0 := by omega
      simp [removeCopies, located.found, located.entries, modify_located, quantityAt, taken, left]
    · refine .inr (.inl ⟨before, quantity, after, located, all, ?_⟩)
      have taken : min count quantity = quantity := by omega
      -- The entry is erased at the position where the index has found it.
      have gone : (before ++ (⟨card, 0⟩ :: after)).eraseIdx before.length = before ++ after := by
        rw [List.eraseIdx_append_of_length_le (Nat.le_refl _)]
        simp
      simp [removeCopies, located.found, located.entries, modify_located, quantityAt, taken, gone]
  · exact .inr (.inr ⟨member, by simp [removeCopies, formed.index_eq_none member]⟩)

theorem empty_wellFormed : empty.WellFormed where
  indexed card position := by simp [empty, cards]
  stocked := by simp [empty]

/-- An entry with another quantity leaves the deck well-formed, as long as there are copies. -/
theorem Located.requantify (located : deck.Located card before quantity after)
    (formed : deck.WellFormed) {changed : Nat} (some : 0 < changed) :
    Deck.WellFormed { deck with entries := before ++ ⟨card, changed⟩ :: after } where
  -- The cards are the same ones at the same positions.
  indexed other position := by
    have same : deck.cards =
        cards { deck with entries := before ++ ⟨card, changed⟩ :: after } := by
      simp [cards, located.entries]
    rw [← same]
    exact formed.indexed other position
  -- Only this entry has another quantity, and it is positive.
  stocked entry member := by
    have others := formed.stocked
    simp only [located.entries, List.mem_append, List.mem_cons] at others member
    rcases member with front | rfl | back
    · exact others entry (.inl front)
    · exact some
    · exact others entry (.inr (.inr back))

/-- A further card stands at the position that is the number of the cards in front of it. -/
theorem getElem?_concat_eq_some {cards : List CardId} {card other : CardId} {position : Nat} :
    (cards ++ [card])[position]? = some other ↔
      cards[position]? = some other ∨ (position = cards.length ∧ card = other) := by
  -- In front of the further card nothing changes, and at its own position it is the only one.
  rcases Nat.lt_trichotomy position cards.length with less | rfl | more
  · rw [List.getElem?_append_left less]
    exact ⟨.inl, fun found => found.resolve_right fun last => by omega⟩
  · simp
  · -- Behind the further card there is nothing, before and after.
    have longer : (cards ++ [card])[position]? = none :=
      List.getElem?_eq_none (by simpa using Nat.succ_le_of_lt more)
    have shorter : cards[position]? = none := List.getElem?_eq_none (Nat.le_of_lt more)
    simp [longer, shorter, Nat.ne_of_gt more]

/-- Adding copies keeps a deck well-formed. -/
theorem WellFormed.add (formed : deck.WellFormed) (card : CardId) (count : Nat) :
    (deck.add card count).WellFormed := by
  unfold Deck.add
  rcases formed.addCopies_cases card count with
    ⟨before, quantity, after, located, added⟩ | ⟨absent, positive, added⟩ | ⟨-, -, added⟩
  · rw [added]
    have := formed.stocked ⟨card, quantity⟩ (by simp [located.entries])
    exact located.requantify formed (by simp only at this; omega)
  · rw [added]
    refine ⟨fun other position => ?_, fun entry present => ?_⟩
    · have length : deck.cards.length = deck.entries.length := List.length_map _
      show (deck.index.insert card deck.entries.length)[other]? = some position ↔
        ((deck.entries ++ [DeckEntry.mk card count]).map DeckEntry.card)[position]? = some other
      rw [List.map_append, List.map_singleton, ← cards, getElem?_concat_eq_some, ← formed.indexed,
        Std.ExtTreeMap.getElem?_insert, length]
      -- The index had no position for the card, and it keeps those of all others.
      by_cases same : card = other
      · subst same
        simp [formed.index_eq_none absent, eq_comm]
      · simp [same]
    · rcases List.mem_append.mp present with earlier | new
      · exact formed.stocked entry earlier
      · rw [List.mem_singleton.mp new]
        exact positive
  · rwa [added]

/-- Removing copies keeps a deck well-formed. -/
theorem WellFormed.remove (formed : deck.WellFormed) (card : CardId) (count : Nat) :
    (deck.remove card count).WellFormed := by
  unfold Deck.remove
  rcases formed.removeCopies_cases card count with
    ⟨before, quantity, after, located, fewer, removed⟩ | ⟨before, quantity, after, located, -, removed⟩ |
    ⟨-, removed⟩
  · rw [removed]
    exact located.requantify formed (by omega)
  · rw [removed]
    -- The entries that are left are some of those before.
    have fewer : (before ++ after).Sublist deck.entries := by
      rw [located.entries]
      exact (List.sublist_cons_self _ after).append_left before
    exact indexing_wellFormed (formed.distinct.sublist (fewer.map _))
      fun entry present => formed.stocked entry (fewer.subset present)
  · rwa [removed]

end Decksmith.Deck
