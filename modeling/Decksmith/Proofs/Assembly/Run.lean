import Decksmith.Assembly.Basic
import Decksmith.Proofs.Deck.Copies
import Decksmith.Proofs.Slot.Picks

/-! The course of an assembly: what every visit preserves, and how the visits come to an end. -/

namespace Decksmith.Assembler

variable {assembler : Assembler} {records : List Record} {source : Random.Source}

/-- A record without any attribute. -/
def bare (number : UInt32) : Record := ⟨⟨number⟩, fun _ => .absent, fun _ => .absent⟩

/-- Adding picks preserves whatever every single addition preserves. -/
theorem addPicks_preserves (assembler : Assembler) (total : Nat) {P : Deck → Nat → Prop}
    {picks : List Record}
    (step : ∀ record ∈ picks, ∀ deck added, P deck added →
      total + added < assembler.settings.maxTotal → assembler.isCapped deck record.id = false →
      P (deck.add record.id 1) (added + 1))
    {deck : Deck} {added : Nat} (before : P deck added) :
    P (assembler.addPicks total picks deck added).1 (assembler.addPicks total picks deck added).2 := by
  induction picks generalizing deck added with
  | nil => exact before
  | cons record others ih =>
    -- What a single addition preserves is asked of the later picks only.
    have later := fun pick member => step pick (List.mem_cons_of_mem record member)
    rw [addPicks]
    split
    · exact before
    · rename_i room
      split
      -- A card at its limit is passed over.
      · exact ih later before
      · rename_i uncapped
        exact ih later
          (step record (by simp) deck added before (by omega) (by simpa using uncapped))

/-- The count of added copies never falls. -/
theorem le_addPicks (assembler : Assembler) (total : Nat) (picks : List Record) (deck : Deck)
    (added : Nat) : added ≤ (assembler.addPicks total picks deck added).2 :=
  -- No addition lowers the count, so the bound is kept by each of them.
  assembler.addPicks_preserves total (P := fun _ count => added ≤ count)
    (fun _ _ _ _ before _ _ => Nat.le_succ_of_le before) (Nat.le_refl added)

/-- What the removal of a copy preserves, the trim preserves. -/
theorem trimmed_preserves (assembler : Assembler) (records : List Record) {P : Deck → Prop}
    (step : ∀ deck card, P deck → P (deck.remove card 1)) {deck : Deck} (before : P deck) :
    P (assembler.trimmed records deck) := by
  -- The induction is on the records to be removed, one copy at a time.
  have removals : ∀ (removed : List Record) (deck : Deck), P deck → P (removeEach removed deck).2 := by
    intro removed
    induction removed with
    | nil => exact fun _ before => before
    | cons record others ih => exact fun deck before => ih _ (step deck record.id before)
  unfold trimmed trimCopies
  -- Without a filter or without a budget nothing is removed.
  split
  · exact before
  · dsimp only
    split
    · exact before
    · exact removals _ deck before

/-- The trim keeps a deck well-formed and raises no quantity. -/
theorem trimmed_lowers (assembler : Assembler) (records : List Record) {deck : Deck}
    (formed : deck.WellFormed) : (assembler.trimmed records deck).WellFormed ∧
      ∀ card, (assembler.trimmed records deck).quantity card ≤ deck.quantity card := by
  -- Removing a copy lowers one quantity and raises none.
  have step : ∀ (smaller : Deck) (removed : CardId),
      (smaller.WellFormed ∧ ∀ card, smaller.quantity card ≤ deck.quantity card) →
      (smaller.remove removed 1).WellFormed ∧
        ∀ card, (smaller.remove removed 1).quantity card ≤ deck.quantity card := by
    intro smaller removed ⟨formed, lower⟩
    refine ⟨formed.remove removed 1, fun card => ?_⟩
    rw [Deck.quantity_remove formed]
    exact (Nat.sub_le _ _).trans (lower card)
  exact assembler.trimmed_preserves records step ⟨formed, fun _ => Nat.le_refl _⟩

/-- The slots, with the remainder slot where there is one. -/
def allSlots (assembler : Assembler) : List Slot :=
  assembler.slots ++ assembler.remainder.toList

/-- Whichever policy decides, one of the slots has its turn. -/
theorem slotFor_mem (slotted : assembler.slots ≠ []) (last : Option Turn) (source : Random.Source) :
    assembler.slotFor (assembler.nextTurn last source).1 ∈ assembler.allSlots := by
  have positive : 0 < assembler.slots.length := List.length_pos_of_ne_nil slotted
  -- An index within the list finds a slot of the list.
  have indexed : ∀ index, index < assembler.slots.length →
      assembler.slotFor (.slot index) ∈ assembler.allSlots := by
    intro index within
    simp only [slotFor, List.getElem?_eq_getElem within, Option.getD_some]
    exact List.mem_append_left _ (List.getElem_mem within)
  -- Without a remainder slot the first one stands in for it.
  have remaining : assembler.slotFor .remainder ∈ assembler.allSlots := by
    have first := indexed 0 positive
    rw [slotFor, ← List.head?_eq_getElem?] at first
    cases found : assembler.remainder with
    | none => simpa [slotFor, found] using first
    | some slot => simp [slotFor, allSlots, found]
  have sequential : assembler.slotFor (assembler.turnAfter last) ∈ assembler.allSlots := by
    unfold turnAfter
    split
    · exact remaining
    · dsimp only
      split_ifs with within
      · exact indexed _ within
      · exact remaining
      · exact indexed 0 positive
  unfold nextTurn
  split
  · exact indexed _ (source.position_lt positive)
  · exact sequential

/-- What is picked at a visit: nothing by a slot that stays inactive, and otherwise what the slot picks
from the records that are below the copy limit. -/
inductive Picks (assembler : Assembler) (progress : Progress) :
    Turn → List Record → Random.Source → Prop where
  | inactive {turn : Turn} {turned drawn : Random.Source}
      (next : assembler.nextTurn progress.last progress.source = (turn, turned))
      (still : (assembler.slotFor turn).activates turned = (false, drawn)) :
      Picks assembler progress turn [] drawn
  | active {turn : Turn} {turned woken drawn : Random.Source} {picks : List Record}
      (next : assembler.nextTurn progress.last progress.source = (turn, turned))
      (active : (assembler.slotFor turn).activates turned = (true, woken))
      (picked : assembler.picksFor turn (assembler.slotFor turn)
        (assembler.openPool progress.deck progress.pool)
        (assembler.settings.minTotal - progress.total) woken = (.ok picks, drawn)) :
      Picks assembler progress turn picks drawn

/-- A visit adds what is picked at it. -/
theorem visit_picks {progress : Progress} {done : Visit} {drawn : Random.Source}
    (visited : assembler.visit progress = (.ok done, drawn)) :
    ∃ turn picks, assembler.Picks progress turn picks drawn ∧
      done = ⟨assembler.openPool progress.deck progress.pool, turn,
        (assembler.addPicks progress.total picks progress.deck 0).1,
        (assembler.addPicks progress.total picks progress.deck 0).2⟩ := by
  -- Up to two draws come before the picks: for the turn, and for whether the slot is active.
  rcases next : assembler.nextTurn progress.last progress.source with ⟨turn, turned⟩
  rcases awake : (assembler.slotFor turn).activates turned with ⟨active, woken⟩
  unfold visit at visited
  simp only [next, awake] at visited
  cases active with
  | false =>
    obtain ⟨⟨⟩, rfl⟩ := visited
    exact ⟨turn, [], .inactive next awake, rfl⟩
  | true =>
    simp only [Bool.not_true, Bool.false_eq_true, if_false] at visited
    split at visited
    -- A slot that cannot pick makes no visit.
    · simp at visited
    · rename_i picks _ picked
      obtain ⟨⟨⟩, rfl⟩ := visited
      exact ⟨turn, picks, .active next awake picked, rfl⟩

/-- Either kind of slot picks from what it is given, without its blacklist. -/
theorem picksFor_subset {turn : Turn} {slot : Slot} {pool picks : List Record} {missing : Nat}
    {source rest : Random.Source}
    (picked : assembler.picksFor turn slot pool missing source = (.ok picks, rest)) :
    picks ⊆ slot.eligible pool := by
  -- The remainder slot is given its count, and any other slot draws its own.
  unfold picksFor at picked
  dsimp only at picked
  split at picked
  · exact Slot.selectCount_subset picked
  · exact Slot.select_subset picked

/-- A visit adds some records that are below the copy limit, or none if the slot stays inactive. -/
theorem Picks.subset {progress : Progress} {turn : Turn} {picks : List Record}
    {drawn : Random.Source} (chosen : assembler.Picks progress turn picks drawn) :
    picks ⊆ assembler.openPool progress.deck progress.pool := by
  cases chosen with
  | inactive _ _ => exact List.nil_subset _
  | active _ _ picked => exact List.Subset.trans (picksFor_subset picked) (List.filter_subset_self _)

/-- A visit to a slot that is active adds what the slot picks. -/
theorem visit_of_picks (progress : Progress) {turn : Turn} {turned woken drawn : Random.Source}
    {picks : List Record} (next : assembler.nextTurn progress.last progress.source = (turn, turned))
    (active : (assembler.slotFor turn).activates turned = (true, woken))
    (picked : assembler.picksFor turn (assembler.slotFor turn)
      (assembler.openPool progress.deck progress.pool)
      (assembler.settings.minTotal - progress.total) woken = (.ok picks, drawn)) :
    assembler.visit progress =
      (.ok ⟨assembler.openPool progress.deck progress.pool, turn,
        (assembler.addPicks progress.total picks progress.deck 0).1,
        (assembler.addPicks progress.total picks progress.deck 0).2⟩, drawn) := by
  unfold visit
  simp only [next, active, picked, Bool.not_true, Bool.false_eq_true, if_false]

/-- A visit comes about from what is picked at it. -/
theorem Picks.visit {progress : Progress} {turn : Turn} {picks : List Record} {drawn : Random.Source}
    (picked : assembler.Picks progress turn picks drawn) :
    assembler.visit progress =
      (.ok ⟨assembler.openPool progress.deck progress.pool, turn,
        (assembler.addPicks progress.total picks progress.deck 0).1,
        (assembler.addPicks progress.total picks progress.deck 0).2⟩, drawn) := by
  cases picked with
  -- A visit to a slot that stays inactive adds nothing, which is what no picks add.
  | inactive next still =>
    unfold Assembler.visit
    simp only [next, still, Bool.not_false, if_true]
    rfl
  | active next active chosen => exact visit_of_picks progress next active chosen

/-- The states that an assembly passes through, with the number of visits before each. -/
inductive Reaches (assembler : Assembler) (records : List Record) (source : Random.Source) :
    Nat → Progress → Prop where
  | start : Reaches assembler records source 0 (start records source)
  | visit {visits : Nat} {progress : Progress} {done : Visit} {drawn : Random.Source}
      (earlier : Reaches assembler records source visits progress)
      (missing : progress.total < assembler.settings.minTotal)
      (patient : progress.fruitless < assembler.settings.maxIterations)
      (visited : assembler.visit progress = (.ok done, drawn)) :
      Reaches assembler records source (visits + 1) (progress.after done drawn)

/-- From each of its states an assembly goes on to the same end. -/
theorem Reaches.fill_eq {visits : Nat} {progress : Progress}
    (reached : assembler.Reaches records source visits progress) :
    assembler.fill progress = assembler.fill (Assembler.start records source) := by
  induction reached with
  | start => rfl
  -- The state before goes on with just this visit, so both have the same end.
  | @visit _ progress done drawn _ missing patient visited ih =>
    rw [← ih, fill, fill]
    conv_rhs => rw [Progress.repeatVisits, if_neg (by omega), if_neg (by omega), visited]

/-- How the visits end in a state: the deck has its smallest size, too many visits in a row have added
nothing, or a slot cannot pick. -/
inductive Ends (assembler : Assembler) (last : Progress) :
    Except AssemblyError Progress × Random.Source → Prop where
  | filled (enough : assembler.settings.minTotal ≤ last.total) :
      Ends assembler last (.ok last, last.source)
  | stalled (missing : last.total < assembler.settings.minTotal)
      (exhausted : assembler.settings.maxIterations ≤ last.fruitless) :
      Ends assembler last
        (.error (.unsatisfiable last.fruitless last.total assembler.settings.minTotal), last.source)
  | failed {fault : SelectionError} {drawn : Random.Source}
      (missing : last.total < assembler.settings.minTotal)
      (visited : assembler.visit last = (.error fault, drawn)) :
      Ends assembler last (.error (.selection fault), drawn)

/-- Visits that go on from a state of the assembly end in one that is no earlier. -/
theorem Reaches.ends {visits : Nat} {progress : Progress}
    (reached : assembler.Reaches records source visits progress) :
    ∃ final last, visits ≤ final ∧ assembler.Reaches records source final last ∧
      assembler.Ends last (assembler.fill progress) := by
  unfold fill
  -- The induction is that of the repetition itself, so no number of visits has to be known.
  induction progress using Progress.repeatVisits.induct assembler.visit
    assembler.settings.minTotal assembler.settings.maxIterations generalizing visits with
  -- The deck has its size.
  | case1 progress enough =>
    rw [Progress.repeatVisits, if_pos enough]
    exact ⟨visits, progress, Nat.le_refl _, reached, .filled enough⟩
  -- The last visits have added nothing, and no more of them are allowed.
  | case2 progress missing exhausted =>
    rw [Progress.repeatVisits, if_neg missing, if_pos exhausted]
    exact ⟨visits, progress, Nat.le_refl _, reached, .stalled (by omega) exhausted⟩
  -- A slot fails, and its fault is passed on.
  | case3 progress missing patient fault drawn visited =>
    rw [Progress.repeatVisits, if_neg missing, if_neg patient, visited]
    exact ⟨visits, progress, Nat.le_refl _, reached, .failed (by omega) visited⟩
  -- A visit leads to the next state, from which the others go on.
  | case4 progress missing patient done drawn visited ih =>
    rw [Progress.repeatVisits, if_neg missing, if_neg patient, visited]
    obtain ⟨final, last, later, ends⟩ := ih (reached.visit (by omega) (by omega) visited)
    exact ⟨final, last, Nat.le_of_succ_le later, ends⟩

/-- Every assembly comes to an end in one of its states. -/
theorem fill_ends (assembler : Assembler) (records : List Record) (source : Random.Source) :
    ∃ visits last, assembler.Reaches records source visits last ∧
      assembler.Ends last (assembler.fill (start records source)) := by
  obtain ⟨visits, last, -, ended⟩ := Reaches.start.ends
  exact ⟨visits, last, ended⟩

/-- A filled deck is one of the assembly's states, and it has its smallest size. -/
theorem fill_ok {last : Progress}
    (filled : (assembler.fill (start records source)).1 = .ok last) :
    (∃ visits, assembler.Reaches records source visits last) ∧
      assembler.settings.minTotal ≤ last.total := by
  obtain ⟨visits, state, reached, ends⟩ := assembler.fill_ends records source
  -- Of the three ends only the first one gives a state.
  generalize assembler.fill (start records source) = outcome at filled ends
  cases ends with
  | filled enough => cases filled; exact ⟨⟨visits, reached⟩, enough⟩
  | stalled _ _ => cases filled
  | failed _ _ => cases filled

/-- Assembling from a valid setup fills a deck and trims it. -/
theorem assemble_eq (slotted : assembler.slots ≠ [])
    (ordered : assembler.settings.minTotal ≤ assembler.settings.maxTotal) (records : List Record)
    (source : Random.Source) :
    (assembler.assemble records source).1 =
      (assembler.fill (start records source)).1.map fun last =>
        assembler.trimmed records last.deck := by
  -- Neither fault of the setup is there, and what remains is the filling with the trim behind it.
  have slotted : assembler.slots.isEmpty = false := by simpa using slotted
  unfold assemble
  simp only [slotted, Bool.false_eq_true, if_false, Nat.not_lt.mpr ordered]
  rcases assembler.fill (start records source) with ⟨_ | _, _⟩ <;> rfl

/-- An assembled deck is a filled one after the trim. -/
theorem assemble_ok {deck : Deck} (assembled : (assembler.assemble records source).1 = .ok deck) :
    ∃ last, (assembler.fill (start records source)).1 = .ok last ∧
      deck = assembler.trimmed records last.deck := by
  unfold assemble at assembled
  dsimp only at assembled
  split at assembled
  -- A setup without slots or with an empty window of sizes gives no deck.
  · cases assembled
  · split at assembled
    · cases assembled
    · cases filled : assembler.fill (start records source) with
      | mk outcome rest =>
        rw [filled] at assembled
        cases outcome with
        | error fault => cases assembled
        | ok last => cases assembled; exact ⟨last, rfl, rfl⟩

/-- If the first slot picks enough, its visit fills the deck. -/
theorem fill_of_picks {turn : Turn} {turned woken drawn : Random.Source} {picks : List Record}
    (next : assembler.nextTurn none source = (turn, turned))
    (active : (assembler.slotFor turn).activates turned = (true, woken))
    (picked : assembler.picksFor turn (assembler.slotFor turn) (assembler.openPool .empty records)
      assembler.settings.minTotal woken = (.ok picks, drawn))
    (some : 0 < assembler.settings.minTotal) (patient : 0 < assembler.settings.maxIterations)
    (enough : assembler.settings.minTotal ≤ (assembler.addPicks 0 picks .empty 0).2) :
    assembler.fill (start records source) =
      (.ok ((start records source).after ⟨assembler.openPool .empty records, turn,
        (assembler.addPicks 0 picks .empty 0).1, (assembler.addPicks 0 picks .empty 0).2⟩ drawn),
        drawn) := by
  have visited := visit_of_picks (start records source) next active picked
  -- At the start copies are missing, and no visit has been in vain.
  have missing : ¬ assembler.settings.minTotal ≤ (start records source).total := Nat.not_le.mpr some
  have tried : ¬ assembler.settings.maxIterations ≤ (start records source).fruitless :=
    Nat.not_le.mpr patient
  unfold fill
  rw [Progress.repeatVisits, if_neg missing, if_neg tried, visited]
  dsimp only
  -- The copies are enough, so no further visit takes place.
  rw [Progress.repeatVisits]
  exact if_pos (by simpa only [Progress.after, start, Nat.zero_add] using enough)

end Decksmith.Assembler
