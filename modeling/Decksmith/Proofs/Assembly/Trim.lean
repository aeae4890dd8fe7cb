import Decksmith.Assembly.Basic
import Decksmith.Proofs.Binary64.Share
import Decksmith.Proofs.Deck.Stock
import Decksmith.Proofs.Query.Agreement

/-! What the trim takes from a deck: copies of the cards that its filter selects, from the front and within
its budget. -/

namespace Decksmith

namespace Deck

/-- The number of copies in some entries of the cards that are wanted. -/
def copiesOf (wanted : CardId → Bool) (entries : List DeckEntry) : Nat :=
  ((entries.filter fun entry => wanted entry.card).map DeckEntry.quantity).sum

/-- The wanted cards of some entries, once for each copy. -/
def wantedCopies (wanted : CardId → Bool) (entries : List DeckEntry) : List CardId :=
  (entries.flatMap fun entry => List.replicate entry.quantity entry.card).filter wanted

variable {wanted : CardId → Bool} {deck : Deck}

@[simp] theorem wantedCopies_append (before after : List DeckEntry) :
    wantedCopies wanted (before ++ after) =
      wantedCopies wanted before ++ wantedCopies wanted after := by
  rw [wantedCopies, List.flatMap_append, List.filter_append, wantedCopies, wantedCopies]

@[simp] theorem wantedCopies_cons (entry : DeckEntry) (others : List DeckEntry) :
    wantedCopies wanted (entry :: others) =
      (if wanted entry.card then List.replicate entry.quantity entry.card else []) ++
        wantedCopies wanted others := by
  rw [wantedCopies, List.flatMap_cons, List.filter_append, List.filter_replicate]
  rfl

/-- There is one wanted copy for each that is counted. -/
theorem length_wantedCopies (entries : List DeckEntry) :
    (wantedCopies wanted entries).length = copiesOf wanted entries := by
  -- An entry that is wanted gives its quantity to both sides, and any other one nothing.
  induction entries with
  | nil => rfl
  | cons entry others ih =>
    rw [wantedCopies_cons, List.length_append, ih, copiesOf, copiesOf, List.filter_cons]
    by_cases here : wanted entry.card = true
    · simp [here]
    · simp [here]

/-- A card that is wanted is there once for each of its copies, and no other card is there. -/
theorem count_wantedCopies (card : CardId) (entries : List DeckEntry) :
    (wantedCopies wanted entries).count card = if wanted card then copiesIn card entries else 0 := by
  induction entries with
  | nil => simp [wantedCopies]
  | cons entry others ih =>
    rw [wantedCopies_cons, List.count_append, ih, copiesIn_cons]
    -- Only the entry of the card itself adds to the count.
    by_cases same : entry.card = card
    · subst same
      by_cases here : wanted entry.card = true
      · simp [here]
      · simp [here]
    · by_cases here : wanted entry.card = true
      · simp [here, same, List.count_replicate]
      · simp [here, same]

/-- The wanted copies are of cards in the deck. -/
theorem mem_of_mem_wantedCopies {card : CardId} {entries : List DeckEntry}
    (member : card ∈ wantedCopies wanted entries) :
    wanted card = true ∧ card ∈ entries.map DeckEntry.card := by
  -- A copy that is wanted stands for the entry that it was made from.
  obtain ⟨listed, chosen⟩ := List.mem_filter.mp member
  obtain ⟨entry, present, copied⟩ := List.mem_flatMap.mp listed
  rw [List.eq_of_mem_replicate copied]
  rw [List.eq_of_mem_replicate copied] at chosen
  exact ⟨chosen, List.mem_map_of_mem present⟩

/-- What is left of a deck after a number of copies of wanted cards has been taken from the front. -/
structure TakenFront (wanted : CardId → Bool) (count : Nat) (deck left : Deck) : Prop where
  formed : left.WellFormed
  /-- That many copies are gone. -/
  fewer : left.total + count = deck.total
  /-- Emptied entries are gone, and the others have kept their order. -/
  cards : left.cards = deck.cards.filter fun card => 0 < left.quantity card
  /-- No card has got more copies. -/
  lowered : ∀ card, left.quantity card ≤ deck.quantity card
  /-- An entry has lost copies only if it is wanted and every wanted entry before it is gone. -/
  greedy : ∀ before entry after, deck.entries = before ++ entry :: after →
    left.quantity entry.card < entry.quantity →
      wanted entry.card = true ∧
        ∀ earlier ∈ before, wanted earlier.card = true → left.quantity earlier.card = 0

/-- A card in the first copies that is not among those of a front has all of the front before it. -/
theorem take_append_of_mem {α : Type} {item : α} {front back : List α} {count : Nat}
    (taken : item ∈ (front ++ back).take count) (absent : item ∉ front) :
    (front ++ back).take count = front ++ back.take (count - front.length) := by
  rw [List.take_append] at taken ⊢
  rcases List.mem_append.mp taken with early | late
  · exact absurd (List.mem_of_mem_take early) absent
  · -- Something is taken from the back, so the front has been taken as a whole.
    have reached : 0 < (back.take (count - front.length)).length := List.length_pos_of_mem late
    rw [List.length_take] at reached
    rw [List.take_of_length_le (by omega)]

/-- A deck that has lost the first of its wanted copies has been taken from at the front. -/
theorem takenFront_of_quantity {left : Deck} {count budget : Nat} (formed : deck.WellFormed)
    (kept : left.WellFormed) (fewer : left.total + count = deck.total)
    (cards : left.cards = deck.cards.filter fun card => 0 < left.quantity card)
    (lost : ∀ card, left.quantity card =
      deck.quantity card - ((wantedCopies wanted deck.entries).take budget).count card) :
    TakenFront wanted count deck left where
  formed := kept
  fewer := fewer
  cards := cards
  lowered card := by
    rw [lost]
    exact Nat.sub_le _ _
  greedy before entry after split less := by
    -- The entry is one of the deck, so its quantity is that of its card.
    have present : entry ∈ deck.entries := by
      rw [split]
      exact List.mem_append_right before List.mem_cons_self
    rw [lost, formed.quantity_of_mem present] at less
    -- The entry has lost a copy, so its card is among the first wanted copies.
    have taken : entry.card ∈ (wantedCopies wanted deck.entries).take budget := by
      rw [← List.count_pos_iff]
      omega
    obtain ⟨chosen, -⟩ := mem_of_mem_wantedCopies (List.mem_of_mem_take taken)
    refine ⟨chosen, fun earlier early also => ?_⟩
    -- No entry before it has the same card, so all of their wanted copies have been taken.
    have distinct := formed.distinct
    rw [Deck.cards, split, List.map_append, List.map_cons, List.nodup_middle,
      List.nodup_cons, List.mem_append, not_or] at distinct
    have absent : entry.card ∉ wantedCopies wanted before :=
      fun member => distinct.1.1 (mem_of_mem_wantedCopies member).2
    have front := split ▸ taken
    rw [wantedCopies_append] at front
    have whole := take_append_of_mem front absent
    -- So an earlier entry that is wanted has lost as many copies as it had.
    have counted : copiesIn earlier.card before ≤
        ((wantedCopies wanted deck.entries).take budget).count earlier.card := by
      rw [split, wantedCopies_append, whole, List.count_append, count_wantedCopies, if_pos also]
      exact Nat.le_add_right _ _
    have member : earlier ∈ deck.entries := by
      rw [split]
      exact List.mem_append_left _ early
    have there : earlier.quantity ≤ copiesIn earlier.card before := by
      obtain ⟨some, more, rfl⟩ := List.append_of_mem early
      rw [copiesIn_append, copiesIn_cons, if_pos rfl]
      omega
    rw [lost, formed.quantity_of_mem member]
    omega

end Deck

namespace Assembler

variable {deck : Deck}

/-- The removals after the first go on with what it has left. -/
theorem removeEach_cons (record : Record) (others : List Record) (deck : Deck) :
    removeEach (record :: others) deck =
      (deck.removable record.id 1 + (removeEach others (deck.remove record.id 1)).1,
        (removeEach others (deck.remove record.id 1)).2) := rfl

/-- Removing a copy for each of some records takes from every card as many as are asked for, as far as
there are any. -/
theorem removeEach_quantity (removed : List Record) (formed : deck.WellFormed) :
    (removeEach removed deck).2.WellFormed ∧ ∀ card,
      (removeEach removed deck).2.quantity card =
        deck.quantity card - (removed.map Record.id).count card := by
  -- The removals are made one after the other, each from the deck that the ones before have left.
  induction removed generalizing deck with
  | nil => exact ⟨formed, fun _ => rfl⟩
  | cons record others ih =>
    obtain ⟨kept, lowered⟩ := ih (formed.remove record.id 1)
    refine ⟨kept, fun card => ?_⟩
    -- The first removal counts for its own card, and for no other.
    rw [removeEach_cons, lowered, Deck.quantity_remove formed, List.map_cons, List.count_cons]
    by_cases same : record.id = card
    · simp only [same, if_true, beq_self_eq_true]
      omega
    · simp [same]

/-- It tells by how much the total has gone down. -/
theorem removeEach_total (removed : List Record) (formed : deck.WellFormed) :
    (removeEach removed deck).2.total + (removeEach removed deck).1 = deck.total := by
  induction removed generalizing deck with
  | nil => rfl
  | cons record others ih =>
    -- What the first removal tells and what the others tell add up.
    have first := Deck.total_remove formed record.id 1
    have rest := ih (formed.remove record.id 1)
    rw [removeEach_cons, Deck.removable, Deck.removeCopies_fst formed]
    dsimp only
    omega

/-- The cards without copies lose their places, and the others keep their order. -/
theorem removeEach_cards (removed : List Record) (formed : deck.WellFormed) :
    (removeEach removed deck).2.cards =
      deck.cards.filter fun card => 0 < (removeEach removed deck).2.quantity card := by
  induction removed generalizing deck with
  | nil =>
    -- Without removals every card keeps its copies, and a card of the deck has at least one.
    refine (List.filter_eq_self.mpr fun card member => ?_).symm
    rw [decide_eq_true_eq, Nat.pos_iff_ne_zero]
    exact fun none => formed.quantity_eq_zero_iff.mp none member
  | cons record others ih =>
    have next := formed.remove record.id 1
    rw [removeEach_cons, ih next, Deck.cards_remove formed]
    split
    · rename_i last
      -- The last copy of the card is gone, so it would be filtered out in any case.
      rw [List.filter_filter]
      refine List.filter_congr fun card _ => ?_
      have lowered := (removeEach_quantity others next).2 card
      rw [Deck.quantity_remove formed] at lowered
      by_cases same : card = record.id
      · subst same
        have none : (removeEach others (deck.remove record.id 1)).2.quantity record.id = 0 := by
          rw [lowered, if_pos rfl]
          omega
        simp [none]
      · simp [same]
    · rfl

/-- If there is a copy for each of the records, as many are removed. -/
theorem removeEach_fst {removed : List Record} (formed : deck.WellFormed)
    (stocked : ∀ card, (removed.map Record.id).count card ≤ deck.quantity card) :
    (removeEach removed deck).1 = removed.length := by
  induction removed generalizing deck with
  | nil => rfl
  | cons record others ih =>
    -- The first removal finds a copy, and leaves enough of them for the others.
    have here := stocked record.id
    rw [List.map_cons, List.count_cons_self] at here
    have first : deck.removable record.id 1 = 1 := by
      rw [Deck.removable, Deck.removeCopies_fst formed]
      omega
    have rest : (removeEach others (deck.remove record.id 1)).1 = others.length := by
      refine ih (formed.remove record.id 1) fun card => ?_
      have before := stocked card
      rw [List.map_cons, List.count_cons] at before
      rw [Deck.quantity_remove formed]
      by_cases same : record.id = card
      · simp only [same, beq_self_eq_true, if_true] at before ⊢
        omega
      · simp only [beq_iff_eq, same, if_false] at before ⊢
        omega
    rw [removeEach_cons, first, rest, List.length_cons, Nat.add_comm]

/-- Whether the trim is for a card: the last record with its identity is one that the filter selects. -/
def isTrimmable (mode : CaseMode) (filter : Query) (records : List Record) (card : CardId) : Bool :=
  (Record.lastWithId? records card).any (filter.marks mode)

/-- The records that the trim is for are those of the wanted copies. -/
theorem map_id_trimmable (mode : CaseMode) (filter : Query) (records : List Record) (deck : Deck) :
    (trimmable mode filter records deck).map Record.id =
      Deck.wantedCopies (isTrimmable mode filter records) deck.entries := by
  -- Both sides go through the copies of the deck in the same order.
  rw [trimmable, Query.select_eq_filter, Deck.wantedCopies, ← Deck.flatten]
  induction deck.flatten with
  | nil => rfl
  | cons card others ih =>
    -- A card without a record is no copy that is looked at.
    cases found : Record.lastWithId? records card with
    | none => rw [List.filterMap_cons_none found, ih, List.filter_cons_of_neg (by simp [isTrimmable, found])]
    | some record =>
      have same : record.id = card := by
        simpa [Record.lastWithId?] using List.find?_some found
      have marked : isTrimmable mode filter records card = filter.marks mode record := by
        rw [isTrimmable, found, Option.any_some]
      rw [List.filterMap_cons_some found, List.filter_cons, List.filter_cons, marked]
      split
      · rw [List.map_cons, ih, same]
      · exact ih

/-- The trim takes copies from the front, as many as its budget and the deck allow. -/
theorem trimCopies_front {assembler : Assembler} {filter : Query} (filtered : assembler.trim = some filter)
    (formed : deck.WellFormed) (records : List Record) :
    let wanted := isTrimmable assembler.settings.caseMode filter records
    let outcome := assembler.trimCopies records deck
    outcome.1 = min (trimBudget assembler.settings deck.total) (Deck.copiesOf wanted deck.entries) ∧
      Deck.TakenFront wanted outcome.1 deck outcome.2 := by
  intro wanted outcome
  have copies := map_id_trimmable assembler.settings.caseMode filter records deck
  generalize budgeted : trimBudget assembler.settings deck.total = budget
  -- Also without a budget the outcome is that of the removals, of which there are none then.
  have removals : outcome = removeEach
      ((trimmable assembler.settings.caseMode filter records deck).take budget) deck := by
    simp only [outcome, trimCopies, filtered, budgeted]
    split
    · rename_i none
      rw [none, List.take_zero, removeEach]
    · rfl
  -- Cut off at the budget, the records are still those of the first wanted copies.
  have taken : ((trimmable assembler.settings.caseMode filter records deck).take budget).map Record.id =
      (Deck.wantedCopies wanted deck.entries).take budget := by
    rw [List.map_take, copies]
  -- The copies come from the deck itself, so there is one for each removal.
  have stocked : ∀ card, (((trimmable assembler.settings.caseMode filter records deck).take
      budget).map Record.id).count card ≤ deck.quantity card := by
    intro card
    rw [taken, formed.quantity_eq]
    refine ((List.take_sublist budget _).count_le card).trans ?_
    rw [Deck.count_wantedCopies]
    split
    · exact Nat.le_refl _
    · exact Nat.zero_le _
  -- As many are removed as records are left, which is the smaller one of budget and copies.
  have counted : outcome.1 = min budget (Deck.copiesOf wanted deck.entries) := by
    rw [removals, removeEach_fst formed stocked, List.length_take, ← List.length_map (f := Record.id),
      copies, Deck.length_wantedCopies]
  obtain ⟨kept, lost⟩ := removeEach_quantity
    ((trimmable assembler.settings.caseMode filter records deck).take budget) formed
  rw [taken, ← removals] at lost
  rw [← removals] at kept
  refine ⟨counted, Deck.takenFront_of_quantity formed kept ?_ ?_ lost⟩
  · rw [removals]
    exact removeEach_total _ formed
  · rw [removals]
    exact removeEach_cards _ formed

/-- How many copies the trim of a deck may remove: a share of the copies beyond the smallest size, computed
in doubles, without its places behind the point. A share that is no number is nothing. -/
def trimAllowance (settings : Settings) (total : Nat) : Nat :=
  if total ≤ settings.minTotal then 0
  else
    ⌊Binary64.toRat (Float.ofNat (total - settings.minTotal) *
      Random.Source.toProbability settings.trimFraction)⌋₊

/-- The budget is the allowance, up to the largest word. -/
theorem trimBudget_eq {settings : Settings} {total : Nat} (fits : total < 2 ^ 64) :
    trimBudget settings total = min (trimAllowance settings total) (2 ^ 64 - 1) := by
  unfold trimBudget trimAllowance
  split
  -- A deck that is not too large has no budget and no allowance.
  · rfl
  -- The excess fits into a word with the total, so its share is a whole part cut off at the largest word.
  · exact Binary64.share_eq_floor (by omega) settings.trimFraction

/-- The trim removes as many copies as it may and as the filter selects, from the front of the deck. Without
an intersection of nothing, the filter selects the records that it holds of. -/
theorem trimCopies_takes_front {assembler : Assembler} {filter : Query} {deck : Deck}
    (filtered : assembler.trim = some filter) (formed : deck.WellFormed) (fits : deck.total < 2 ^ 64)
    (records : List Record) :
    let mode := assembler.settings.caseMode
    let wanted := isTrimmable mode filter records
    let outcome := assembler.trimCopies records deck
    outcome.1 = min (trimAllowance assembler.settings deck.total) (Deck.copiesOf wanted deck.entries) ∧
      Deck.TakenFront wanted outcome.1 deck outcome.2 ∧
      (filter.Proper → ∀ card,
        wanted card = (Record.lastWithId? records card).any (filter.holds mode)) := by
  intro mode wanted outcome
  obtain ⟨counted, front⟩ := trimCopies_front filtered formed records
  refine ⟨counted.trans ?_, front, fun proper card => ?_⟩
  · -- A deck of fewer copies than the largest word cannot tell the budget from the allowance.
    have part : Deck.copiesOf wanted deck.entries ≤ deck.total := by
      rw [Deck.total_eq_sum]
      exact (List.filter_sublist.map DeckEntry.quantity).sum_le_sum (by simp)
    show min (trimBudget _ _) (Deck.copiesOf wanted deck.entries) = _
    rw [trimBudget_eq fits]
    omega
  -- On a filter without an empty intersection both evaluators agree about every record.
  · have same : filter.marks mode = filter.holds mode :=
      funext fun record => proper.marks_eq_holds record
    show (Record.lastWithId? records card).any (filter.marks mode) = _
    rw [same]

/-- An assembler that may trim three quarters of what is beyond five copies. -/
def thinning : Assembler where
  settings := { minTotal := 5, trimFraction := 0.75 }
  trim := some (.test ⟨.name, .none, .equal, "a"⟩)

/-- Some named records. Two of them share an identity, and the last one counts. -/
def shelf : List Record :=
  [(0, "b"), (1, "b"), (0, "a"), (7, "a"), (2, "c")].map fun (number, name) =>
    ⟨⟨number⟩, fun _ => .text name, fun _ => .absent⟩

/-- A deck of ten copies, four of them of cards that the trim is for. -/
def pile : Deck := .ofEntries [⟨⟨0⟩, 3⟩, ⟨⟨1⟩, 2⟩, ⟨⟨7⟩, 1⟩, ⟨⟨2⟩, 4⟩]

/-- The share is three copies and three quarters. Three copies go, and the fourth stays behind them. -/
theorem trimCopies_takes_front_pile :
    thinning.trimCopies shelf pile = (3, .ofEntries [⟨⟨1⟩, 2⟩, ⟨⟨7⟩, 1⟩, ⟨⟨2⟩, 4⟩]) ∧
      3 = min (trimAllowance thinning.settings 10) 4 ∧
      Deck.TakenFront (isTrimmable .ignoring (.test ⟨.name, .none, .equal, "a"⟩) shelf) 3 pile
        (.ofEntries [⟨⟨1⟩, 2⟩, ⟨⟨7⟩, 1⟩, ⟨⟨2⟩, 4⟩]) := by
  -- The trim takes the first copies that are wanted: all three of the first entry.
  have trimmed : thinning.trimCopies shelf pile =
      (3, .ofEntries [⟨⟨1⟩, 2⟩, ⟨⟨7⟩, 1⟩, ⟨⟨2⟩, 4⟩]) := by decide +kernel
  have formed : pile.WellFormed := (Deck.stock_ofEntries _).1
  obtain ⟨counted, front, -⟩ :=
    @trimCopies_takes_front thinning _ pile rfl formed (by decide +kernel) shelf
  rw [trimmed] at counted front
  have copies : Deck.copiesOf (isTrimmable thinning.settings.caseMode
      (.test ⟨.name, .none, .equal, "a"⟩) shelf) pile.entries = 4 := by decide +kernel
  have total : pile.total = 10 := by decide +kernel
  rw [copies, total] at counted
  exact ⟨trimmed, counted, front⟩

end Assembler

end Decksmith
