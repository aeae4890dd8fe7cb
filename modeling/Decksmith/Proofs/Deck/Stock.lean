import Decksmith.Proofs.Deck.Copies
import Mathlib.Logic.Function.Basic

/-! A deck, with its entries and its index, is a stock of copies: a multiset of cards that remembers the
order in which they came in. -/

namespace Decksmith

/-- Something that is done to a deck. -/
inductive DeckOperation where
  | add (card : CardId) (count : Nat)
  | remove (card : CardId) (count : Nat)
  | cap (card : CardId) (limit : Nat)

/-- The answers to operations that are applied one after the other, and the state after all of them. -/
def DeckOperation.run (apply : σ → DeckOperation → Nat × σ) (state : σ) :
    List DeckOperation → List Nat × σ
  | [] => ([], state)
  | operation :: others =>
    let done := apply state operation
    let rest := run apply done.2 others
    (done.1 :: rest.1, rest.2)

/-- How many copies there are of every card, and the cards of which there are any, in the order in which
they came in. -/
@[ext] structure Stock where
  order : List CardId
  copies : CardId → Nat

namespace Stock

/-- No copies of any card. -/
def empty : Stock := ⟨[], fun _ => 0⟩

/-- More copies of a card. A card of which there were none comes last. -/
def add (stock : Stock) (card : CardId) (count : Nat) : Stock where
  order := if card ∈ stock.order ∨ count = 0 then stock.order else stock.order ++ [card]
  copies := Function.update stock.copies card (stock.copies card + count)

/-- So many copies of a card as are left. A card of which none are left loses its place. -/
def leave (stock : Stock) (card : CardId) (left : Nat) : Stock where
  order := if left = 0 then stock.order.filter (· ≠ card) else stock.order
  copies := Function.update stock.copies card left

/-- The answer to an operation, and the copies after it. An addition answers with the new quantity, the
other operations with the number of copies that they have taken. -/
def apply (stock : Stock) : DeckOperation → Nat × Stock
  | .add card count => (stock.copies card + count, stock.add card count)
  | .remove card count =>
    (min count (stock.copies card), stock.leave card (stock.copies card - count))
  | .cap card limit =>
    (stock.copies card - limit, stock.leave card (min (stock.copies card) limit))

/-- The stock that a list of entries adds up to. -/
def ofEntries (entries : List DeckEntry) : Stock :=
  entries.foldl (fun stock entry => stock.add entry.card entry.quantity) empty

end Stock

namespace Deck

open DeckOperation (run)

/-- The answer to an operation, and the deck after it. -/
def apply (deck : Deck) : DeckOperation → Nat × Deck
  | .add card count => deck.addCopies card count
  | .remove card count => deck.removeCopies card count
  | .cap card limit => deck.capCopies card limit

/-- The copies that a deck holds. -/
def stock (deck : Deck) : Stock := ⟨deck.cards, deck.quantity⟩

variable {deck : Deck}

/-- Adding copies to a deck adds them to its stock. -/
theorem stock_add (formed : deck.WellFormed) (card : CardId) (count : Nat) :
    (deck.add card count).stock = deck.stock.add card count := by
  -- A stock is a list of cards with a quantity for each, so both are compared.
  refine Stock.ext (cards_add formed card count) (funext fun other => ?_)
  show (deck.add card count).quantity other = Function.update deck.quantity card _ other
  rw [quantity_add formed]
  by_cases same : card = other
  · subst same
    simp [stock]
  · simp [same, Ne.symm same]

/-- Removing copies from a deck leaves those of its stock that it does not take. -/
theorem stock_remove (formed : deck.WellFormed) (card : CardId) (count : Nat) :
    (deck.remove card count).stock = deck.stock.leave card (deck.quantity card - count) := by
  refine Stock.ext ?_ (funext fun other => ?_)
  -- The card leaves the list with its last copy.
  · show (deck.remove card count).cards = _
    rw [cards_remove formed]
    simp [Stock.leave, stock, Nat.sub_eq_zero_iff_le]
  -- No other quantity changes.
  · show (deck.remove card count).quantity other = Function.update deck.quantity card _ other
    rw [quantity_remove formed]
    by_cases same : card = other
    · subst same
      simp
    · simp [same, Ne.symm same]

/-- Every operation on a deck keeps it well-formed, and does to its stock what it is to do, with the same
answer. -/
theorem apply_stock (formed : deck.WellFormed) (operation : DeckOperation) :
    (deck.apply operation).2.WellFormed ∧ (deck.apply operation).1 = (deck.stock.apply operation).1 ∧
      (deck.apply operation).2.stock = (deck.stock.apply operation).2 := by
  -- Each operation has its lemma about the answer and its lemma about the stock.
  cases operation with
  | add card count =>
    exact ⟨formed.add card count, addCopies_fst formed card count, stock_add formed card count⟩
  | remove card count =>
    exact ⟨formed.remove card count, removeCopies_fst formed card count,
      stock_remove formed card count⟩
  | cap card limit =>
    -- A cap removes what is beyond the limit.
    refine ⟨formed.remove card _, (removeCopies_fst formed card _).trans ?_,
      (stock_remove formed card _).trans ?_⟩
    · exact Nat.min_eq_left (Nat.sub_le _ _)
    · show deck.stock.leave card _ = deck.stock.leave card (min (deck.quantity card) limit)
      congr 1
      omega

/-- A run of operations on a deck keeps it well-formed, and does to its stock what it is to do, with the
same answers. -/
theorem run_stock (formed : deck.WellFormed) (operations : List DeckOperation) :
    (run apply deck operations).2.WellFormed ∧
      (run apply deck operations).1 = (run Stock.apply deck.stock operations).1 ∧
      (run apply deck operations).2.stock = (run Stock.apply deck.stock operations).2 := by
  induction operations generalizing deck with
  | nil => exact ⟨formed, rfl, rfl⟩
  | cons operation others ih =>
    -- The first operation leads from one stock to the next, and the others go on from there.
    obtain ⟨kept, answer, done⟩ := apply_stock formed operation
    obtain ⟨last, answers, all⟩ := ih kept
    rw [done] at answers all
    exact ⟨last, congrArg₂ List.cons answer answers, all⟩

/-- A list of entries adds up to a well-formed deck, with the stock that it adds up to. -/
theorem stock_ofEntries (entries : List DeckEntry) :
    (ofEntries entries).WellFormed ∧ (ofEntries entries).stock = Stock.ofEntries entries := by
  -- The entries are added one after the other, to whatever the earlier ones have made.
  have general : ∀ deck : Deck, deck.WellFormed →
      (entries.foldl (fun deck entry => deck.add entry.card entry.quantity) deck).WellFormed ∧
      (entries.foldl (fun deck entry => deck.add entry.card entry.quantity) deck).stock =
        entries.foldl (fun stock entry => stock.add entry.card entry.quantity) deck.stock := by
    induction entries with
    | nil => exact fun _ formed => ⟨formed, rfl⟩
    | cons entry others ih =>
      intro deck formed
      obtain ⟨kept, same⟩ := ih _ (formed.add entry.card entry.quantity)
      rw [stock_add formed] at same
      exact ⟨kept, same⟩
  have none : empty.stock = Stock.empty := Stock.ext rfl (funext quantity_empty)
  simpa [ofEntries, Stock.ofEntries, none] using general empty empty_wellFormed

/-- What a deck shows of a stock: the same cards in the same order, each with all its copies. -/
structure Shows (deck : Deck) (stock : Stock) : Prop where
  entries : deck.entries = stock.order.map fun card => ⟨card, stock.copies card⟩
  quantity : ∀ card, deck.quantity card = stock.copies card
  contains : ∀ card, deck.contains card = true ↔ 0 < stock.copies card
  total : deck.total = (stock.order.map stock.copies).sum
  size : deck.size = stock.order.length
  flatten : deck.flatten = stock.order.flatMap fun card => List.replicate (stock.copies card) card

/-- A well-formed deck shows its stock. -/
theorem WellFormed.shows (formed : deck.WellFormed) : deck.Shows deck.stock := by
  -- Each entry says how many copies its card has.
  have entries : deck.entries = deck.cards.map fun card => ⟨card, deck.quantity card⟩ := by
    rw [cards, List.map_map]
    refine (List.map_id _).symm.trans (List.map_congr_left fun entry member => ?_)
    simp [formed.quantity_of_mem member]
  refine ⟨entries, fun _ => rfl, fun card => ?_, total_eq_sum_quantity formed, ?_, ?_⟩
  · -- The index knows the cards of the deck, and these are the ones with copies.
    show deck.contains card = true ↔ 0 < deck.quantity card
    rw [Nat.pos_iff_ne_zero, Ne, formed.quantity_eq_zero_iff, not_not, contains,
      Std.ExtTreeMap.contains_eq_isSome_getElem?]
    refine ⟨fun found => by_contra fun absent => ?_, fun member => ?_⟩
    · simp [formed.index_eq_none absent] at found
    · obtain ⟨_, _, _, located⟩ := formed.located member
      simp [located.found]
  · simp [size, stock, cards]
  · rw [flatten, entries]
    simp [List.flatMap_map, stock]

/-- A deck that has gone through some operations shows the stock that has gone through them, with the
same answers, and its index leads to every card at its position. Two such decks are equal just when
their entries are. -/
theorem run_refines_stock (start : List DeckEntry) (operations : List DeckOperation) :
    let outcome := run apply (ofEntries start) operations
    let expected := run Stock.apply (Stock.ofEntries start) operations
    outcome.1 = expected.1 ∧ outcome.2.Shows expected.2 ∧ outcome.2.WellFormed ∧
      outcome.2.cards.Nodup ∧
      ∀ (otherStart : List DeckEntry) (otherOperations : List DeckOperation),
        let other := run apply (ofEntries otherStart) otherOperations
        (outcome.2 == other.2) = true ↔ outcome.2.entries = other.2.entries := by
  intro outcome expected
  obtain ⟨formed, same⟩ := stock_ofEntries start
  obtain ⟨kept, answers, done⟩ := run_stock formed operations
  rw [same] at answers done
  -- What a well-formed deck shows is its own stock, and that is the expected one.
  refine ⟨answers, done ▸ kept.shows, kept, kept.distinct, ?_⟩
  intro otherStart otherOperations other
  -- Well-formed decks differ in nothing else than in their entries.
  obtain ⟨also, -, -⟩ := run_stock (stock_ofEntries otherStart).1 otherOperations
  rw [beq_iff_eq]
  exact ⟨congrArg entries, kept.ext also⟩

/-- A card that loses all its copies and gets new ones comes last. -/
example : run apply (ofEntries [⟨⟨1⟩, 2⟩, ⟨⟨2⟩, 1⟩]) [.remove ⟨1⟩ 5, .add ⟨1⟩ 3, .cap ⟨1⟩ 2] =
    ([2, 3, 1], ofEntries [⟨⟨2⟩, 1⟩, ⟨⟨1⟩, 2⟩]) := by rfl

end Deck

end Decksmith
