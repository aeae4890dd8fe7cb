import Decksmith.Deck.Data
import Decksmith.Proofs.Deck.Stock
import Mathlib.Data.List.Induction

/-! A deck and its entries are the same thing: a list of entries adds up to a deck, which is the one deck with
these quantities and this order of cards, and a deck is what its entries add up to, or its single copies. -/

namespace Decksmith

namespace Deck

/-- The cards of some entries, in the order of their first entries that hold copies. -/
def arrivals (entries : List DeckEntry) : List CardId :=
  ((entries.filter (0 < ·.quantity)).map DeckEntry.card).eraseDups

variable {deck other : Deck}

/-- A well-formed deck is known by the order of its cards and by their quantities. -/
theorem WellFormed.eq_of_cards_quantity (formed : deck.WellFormed) (also : other.WellFormed)
    (cards : deck.cards = other.cards) (quantity : ∀ card, deck.quantity card = other.quantity card) :
    deck = other := by
  have stock : deck.stock = other.stock := Stock.ext cards (funext quantity)
  -- What a deck shows of its stock are all its entries, and these make the index as well.
  exact formed.ext also (formed.shows.entries.trans (stock ▸ also.shows.entries.symm))

/-- Copies that are added in two steps might as well be added in one. -/
theorem add_add (formed : deck.WellFormed) (card : CardId) (first second : Nat) :
    (deck.add card first).add card second = deck.add card (first + second) := by
  have once := formed.add card first
  refine (once.add card second).eq_of_cards_quantity (formed.add card _) ?_ fun other => ?_
  · rw [cards_add once, cards_add formed, cards_add formed]
    -- Whether the card was there, came with the first copies, or comes with the second ones.
    by_cases member : card ∈ deck.cards
    · simp [member]
    · rcases Nat.eq_zero_or_pos first with none | some
      · simp [member, none]
      · simp [member, Nat.ne_of_gt some]
  · rw [quantity_add once, quantity_add formed, quantity_add formed]
    split <;> omega

/-- Copies of one card that are added one by one. -/
theorem foldl_add_replicate (formed : deck.WellFormed) (card : CardId) (count : Nat) :
    (List.replicate count card).foldl (fun deck card => deck.add card 1) deck = deck.add card count := by
  induction count generalizing deck with
  -- Nothing to add leaves the deck as it is.
  | zero => rfl
  | succ count ih =>
    rw [List.replicate_succ, List.foldl_cons, ih (formed.add card 1), add_add formed, Nat.add_comm]

/-- The single copies of some entries add up to what the entries add up to. -/
theorem foldl_add_flatMap (entries : List DeckEntry) (formed : deck.WellFormed) :
    (entries.flatMap fun entry => List.replicate entry.quantity entry.card).foldl
      (fun deck card => deck.add card 1) deck =
      entries.foldl (fun deck entry => deck.add entry.card entry.quantity) deck := by
  induction entries generalizing deck with
  | nil => rfl
  | cons entry others ih =>
    -- The copies of the first entry come first, and the others are added to what they have made.
    rw [List.flatMap_cons, List.foldl_append, foldl_add_replicate formed, List.foldl_cons]
    exact ih (formed.add entry.card entry.quantity)

/-- A further entry is added to what the entries in front of it add up to. -/
theorem ofEntries_concat (front : List DeckEntry) (entry : DeckEntry) :
    ofEntries (front ++ [entry]) = (ofEntries front).add entry.card entry.quantity := by
  simp [ofEntries]

theorem ofEntries_wellFormed (entries : List DeckEntry) : (ofEntries entries).WellFormed :=
  (stock_ofEntries entries).1

/-- Every card gets the copies of all its entries. -/
theorem quantity_ofEntries (entries : List DeckEntry) (card : CardId) :
    (ofEntries entries).quantity card = copiesIn card entries := by
  -- The deck grows at the end of the list, so the induction does as well.
  induction entries using List.reverseRecOn with
  | nil => exact quantity_empty card
  | append_singleton front entry ih =>
    rw [ofEntries_concat, quantity_add (ofEntries_wellFormed front), ih]
    simp

/-- The total is that of all entries. -/
theorem total_ofEntries (entries : List DeckEntry) :
    (ofEntries entries).total = (entries.map DeckEntry.quantity).sum := by
  -- Entries are added from the front, so the induction takes the last one off.
  induction entries using List.reverseRecOn with
  | nil => rfl
  | append_singleton front entry ih =>
    rw [ofEntries_concat, total_add (ofEntries_wellFormed front), ih]
    simp

/-- A further entry brings its card, unless it holds no copies or the card has come before. -/
theorem arrivals_concat (front : List DeckEntry) (entry : DeckEntry) :
    arrivals (front ++ [entry]) =
      if entry.card ∈ arrivals front ∨ entry.quantity = 0 then arrivals front
      else arrivals front ++ [entry.card] := by
  simp only [arrivals, List.filter_append, List.map_append, List.eraseDups_append, List.mem_eraseDups]
  -- What is new behind the cards in front is the further card, or nothing.
  rcases Nat.eq_zero_or_pos entry.quantity with none | some
  · simp [none, List.removeAll]
  · by_cases member : entry.card ∈ (front.filter (0 < ·.quantity)).map DeckEntry.card
    · simp [some, member, List.removeAll]
    · simp [some, Nat.ne_of_gt some, member, List.removeAll, List.eraseDups_cons]

/-- The cards of the deck come in the order of their first entries. -/
theorem cards_ofEntries (entries : List DeckEntry) : (ofEntries entries).cards = arrivals entries := by
  -- As for the total, the last entry is the last one to be added.
  induction entries using List.reverseRecOn with
  | nil => rfl
  | append_singleton front entry ih =>
    rw [ofEntries_concat, cards_add (ofEntries_wellFormed front), ih, arrivals_concat]

/-- Without repetitions there is nothing to erase. -/
theorem eraseDups_of_nodup {cards : List CardId} (distinct : cards.Nodup) : cards.eraseDups = cards := by
  induction cards with
  | nil => rfl
  | cons card others ih =>
    obtain ⟨fresh, rest⟩ := List.nodup_cons.mp distinct
    -- The first card does not come again, so nothing is filtered out for it.
    have kept : others.filter (fun other => !other == card) = others := by
      simpa [bne] using filter_ne_of_not_mem fresh
    rw [List.eraseDups_cons, kept, ih rest]

/-- The cards of a deck are those of its entries, because each of these holds copies and no card has two. -/
theorem WellFormed.arrivals_eq (formed : deck.WellFormed) : arrivals deck.entries = deck.cards := by
  -- No entry is passed over, because each has a copy.
  have stocked : deck.entries.filter (0 < ·.quantity) = deck.entries :=
    List.filter_eq_self.mpr fun entry member => by simpa using formed.stocked entry member
  rw [arrivals, stocked]
  exact eraseDups_of_nodup formed.distinct

/-- A well-formed deck is what its entries add up to. -/
theorem WellFormed.ofEntries_entries (formed : deck.WellFormed) : ofEntries deck.entries = deck := by
  -- The deck that the entries add up to has the same cards in the same order, with as many copies each.
  refine (ofEntries_wellFormed _).eq_of_cards_quantity formed ?_ fun card => ?_
  · rw [cards_ofEntries, formed.arrivals_eq]
  · rw [quantity_ofEntries, formed.quantity_eq]

/-- A well-formed deck is what its single copies add up to. -/
theorem WellFormed.foldl_add_flatten (formed : deck.WellFormed) :
    deck.flatten.foldl (fun built card => built.add card 1) empty = deck :=
  (foldl_add_flatMap deck.entries empty_wellFormed).trans formed.ofEntries_entries

end Deck

/-- A natural number up to a limit is read as itself. -/
theorem Json.Value.natural?_integer {limit number : Nat} (within : number ≤ limit) :
    natural? limit (.integer number) = some number := by
  rw [natural?, if_pos ⟨Int.natCast_nonneg number, Int.ofNat_le.mpr within⟩, Int.toNat_natCast]

/-- An entry is read back from what is written of it, if its quantity fits a word. -/
theorem DeckEntry.ofJson?_toJson {entry : DeckEntry} (fits : entry.quantity < 2 ^ 64) :
    ofJson? entry.toJson = some entry := by
  obtain ⟨⟨number⟩, quantity⟩ := entry
  have card : CardId.ofJson? (.integer number.toNat) = some ⟨number⟩ := by
    have within : number.toNat ≤ UInt32.size - 1 := Nat.le_pred_of_lt number.toNat_lt_size
    rw [CardId.ofJson?, Json.Value.word?, Json.Value.natural?_integer within]
    simp
  have count : Json.Value.count? (.integer quantity) = some quantity :=
    Json.Value.natural?_integer (Nat.le_pred_of_lt fits)
  -- Both fields are found by their names.
  have fields : ofJson? (toJson ⟨⟨number⟩, quantity⟩) =
      (CardId.ofJson? (.integer number.toNat)).bind fun card =>
        (Json.Value.count? (.integer quantity)).bind fun quantity => some ⟨card, quantity⟩ := rfl
  rw [fields, card, count]
  rfl

/-- Entries are read back one by one. -/
theorem DeckEntry.mapM_ofJson?_toJson {entries : List DeckEntry}
    (fits : ∀ entry ∈ entries, entry.quantity < 2 ^ 64) :
    (entries.map toJson).mapM ofJson? = some entries := by
  induction entries with
  | nil => rfl
  | cons entry others ih =>
    -- A list is read only if all of it is, so the first entry must not fail.
    obtain ⟨first, rest⟩ := List.forall_mem_cons.mp fits
    rw [List.map_cons, List.mapM_cons, ofJson?_toJson first, ih rest]
    rfl

namespace Deck

open DeckOperation (run)

/-- A deck is read back from what is written of it, if its total fits a word. -/
theorem WellFormed.ofJson?_toJson {deck : Deck} (formed : deck.WellFormed) (fits : deck.total < 2 ^ 64) :
    ofJson? deck.toJson = some deck := by
  -- No entry holds more copies than all of them together.
  have each : ∀ entry ∈ deck.entries, entry.quantity < 2 ^ 64 := fun entry member =>
    Nat.lt_of_le_of_lt (total_eq_sum deck ▸ List.le_sum_of_mem (List.mem_map_of_mem member)) fits
  rw [ofJson?, toJson, Json.Value.list?, DeckEntry.mapM_ofJson?_toJson each, Option.map_some,
    formed.ofEntries_entries]

/-- Decks and lists of entries turn into each other. A deck that has gone through some operations is what its
entries add up to, and what its single copies add up to, and it is read back from what is written of it. A list
of entries gives each card the sum of its quantities, puts the cards in the order of their first entries that
hold copies, and once it has become a deck it stays the same. -/
theorem entries_round_trip :
    (∀ (start : List DeckEntry) (operations : List DeckOperation),
      let deck := (run apply (ofEntries start) operations).2
      ofEntries deck.entries = deck ∧
        deck.flatten.foldl (fun built card => built.add card 1) empty = deck ∧
        (deck.total < 2 ^ 64 → ofJson? deck.toJson = some deck)) ∧
    ∀ entries : List DeckEntry,
      (∀ card, (ofEntries entries).quantity card = copiesIn card entries) ∧
        (ofEntries entries).cards = arrivals entries ∧
        (ofEntries entries).total = (entries.map DeckEntry.quantity).sum ∧
        ofEntries (ofEntries entries).entries = ofEntries entries := by
  refine ⟨fun start operations => ?_, fun entries => ?_⟩
  · -- Operations leave a deck well-formed, and that is all it takes.
    obtain ⟨formed, -, -⟩ := run_stock (ofEntries_wellFormed start) operations
    exact ⟨formed.ofEntries_entries, formed.foldl_add_flatten, formed.ofJson?_toJson⟩
  -- A deck that was made of entries is well-formed as well.
  · exact ⟨quantity_ofEntries entries, cards_ofEntries entries, total_ofEntries entries,
      (ofEntries_wellFormed entries).ofEntries_entries⟩

/-- A deck of which a card has left and come back, made of entries with a repeated and an empty one. -/
def returned : Deck :=
  (run apply (ofEntries [⟨⟨1⟩, 2⟩, ⟨⟨2⟩, 0⟩, ⟨⟨3⟩, 1⟩, ⟨⟨1⟩, 1⟩]) [.remove ⟨1⟩ 5, .add ⟨2⟩ 4, .add ⟨1⟩ 2]).2

/-- This deck is read back with the card in its new place. -/
theorem entries_round_trip_returned :
    returned.total < 2 ^ 64 ∧ ofJson? returned.toJson = some returned ∧
      returned.cards = [⟨3⟩, ⟨2⟩, ⟨1⟩] := by
  have fits : returned.total < 2 ^ 64 := by decide +kernel
  exact ⟨fits, (entries_round_trip.1 _ _).2.2 fits, by decide +kernel⟩

end Deck

end Decksmith
