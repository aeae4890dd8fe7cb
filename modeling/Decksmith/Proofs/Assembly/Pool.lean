import Decksmith.Proofs.Assembly.Sound

/-! The pool of an assembly only ever shrinks, and yet it has at every visit what a new search among all records
would find, because no visit lowers a quantity. -/

namespace Decksmith.Assembler

variable {assembler : Assembler} {records : List Record} {source : Random.Source}

/-- The records of whose cards a deck has fewer copies than the limit, in their order. -/
def allowed (assembler : Assembler) (deck : Deck) (records : List Record) : List Record :=
  records.filter fun record => deck.quantity record.id < assembler.settings.copyThreshold

/-- Where there is a copy limit, it decides alone what stays in a pool. -/
theorem openPool_eq_allowed (limited : 0 < assembler.settings.copyThreshold) (deck : Deck)
    (pool : List Record) : assembler.openPool deck pool = assembler.allowed deck pool := by
  -- Both keep records by a condition, and with a limit above zero the two conditions are the same.
  refine List.filter_congr fun record _ => ?_
  simp only [isCapped, limited, decide_true, Bool.true_and, ← decide_not, Nat.not_le]

/-- What is allowed in a deck has been allowed in every deck with fewer copies. -/
theorem allowed_sublist {deck grown : Deck}
    (grows : ∀ card, deck.quantity card ≤ grown.quantity card) (records : List Record) :
    (assembler.allowed grown records).Sublist (assembler.allowed deck records) := by
  -- Of a record that is below the limit now there have been no more copies then.
  refine List.monotone_filter_right records fun record below => ?_
  simp only [decide_eq_true_eq] at below ⊢
  exact (grows record.id).trans_lt below

/-- The number of visits so far decides about the state. -/
theorem Reaches.unique {visits : Nat} {progress other : Progress}
    (reached : assembler.Reaches records source visits progress)
    (again : assembler.Reaches records source visits other) : progress = other := by
  -- The induction is on the visits: each state allows at most one visit, and that gives the next state.
  induction reached generalizing other with
  | start =>
    cases again
    rfl
  | visit _ _ _ visited ih =>
    cases again with
    | visit earlier _ _ repeated =>
      -- The states before the two visits are the same, so both have made the same visit.
      obtain rfl := ih earlier
      rw [visited] at repeated
      cases repeated
      rfl

/-- A visit lowers no quantity. -/
theorem Sound.quantity_le {progress : Progress} (sound : assembler.Sound records progress)
    {done : Visit} {drawn : Random.Source} (visited : assembler.visit progress = (.ok done, drawn))
    (card : CardId) : progress.deck.quantity card ≤ done.deck.quantity card := by
  -- A visit does nothing to the deck but add its picks, which may be none.
  obtain ⟨turn, picks, picked, rfl⟩ := visit_picks visited
  exact (sound.stocked.addPicks (sound.picks_subset picked)).2 card

/-- No quantity is lower in a later state. -/
theorem Reaches.quantity_le {visits later : Nat} {progress state : Progress}
    (reached : assembler.Reaches records source visits progress) (behind : visits ≤ later)
    (further : assembler.Reaches records source later state) (card : CardId) :
    progress.deck.quantity card ≤ state.deck.quantity card := by
  -- The induction is on the later visits; the earlier state is met on the way, or is the last one.
  induction further with
  | start =>
    -- No visit has been made, so the earlier state is the start as well.
    obtain rfl := Nat.le_zero.mp behind
    rw [reached.unique .start]
  | @visit count before done drawn earlier missing patient visited ih =>
    rcases Nat.le_succ_iff.mp behind with before | rfl
    -- The last visit comes behind the earlier state, and lowers no quantity.
    · exact (ih before).trans (earlier.sound.quantity_le visited card)
    -- The last visit has led to the earlier state itself.
    · rw [reached.unique (earlier.visit missing patient visited)]

/-- A visit that searches all records for those below the copy limit. -/
def visitAnew (assembler : Assembler) (records : List Record) (progress : Progress) :
    Except SelectionError Visit × Random.Source :=
  assembler.visit { progress with pool := records }

/-- Visits that search all records, until the deck has its smallest size. -/
def fillAnew (assembler : Assembler) (records : List Record) (progress : Progress) :
    Except AssemblyError Progress × Random.Source :=
  progress.repeatVisits (assembler.visitAnew records) assembler.settings.minTotal
    assembler.settings.maxIterations

/-- In every state of an assembly it makes no difference whether a visit searches all records. -/
theorem Sound.visitAnew_eq {progress : Progress} (sound : assembler.Sound records progress) :
    assembler.visitAnew records progress = assembler.visit progress := by
  -- The pool is all that the records could change.
  simp only [visitAnew, visit, sound.current]

/-- From every state of an assembly on, the visits end in the same way if they search all records. -/
theorem Reaches.fillAnew_eq {visits : Nat} {progress : Progress}
    (reached : assembler.Reaches records source visits progress) :
    assembler.fillAnew records progress = assembler.fill progress := by
  unfold fillAnew fill
  -- The induction is that of the repetition, and each visit leads to another state of the assembly.
  induction progress using Progress.repeatVisits.induct assembler.visit
    assembler.settings.minTotal assembler.settings.maxIterations generalizing visits with
  -- The deck has its size, whichever way the visits search.
  | case1 progress enough =>
    rw [Progress.repeatVisits, Progress.repeatVisits, if_pos enough, if_pos enough]
  -- Too many visits in a row have added nothing, and their number is part of the state.
  | case2 progress missing exhausted =>
    rw [Progress.repeatVisits, Progress.repeatVisits, if_neg missing, if_neg missing,
      if_pos exhausted, if_pos exhausted]
  -- The slot fails on the same records, with the same fault.
  | case3 progress missing patient fault drawn visited =>
    rw [Progress.repeatVisits, Progress.repeatVisits, if_neg missing, if_neg missing,
      if_neg patient, if_neg patient, reached.sound.visitAnew_eq, visited]
  -- The same visit leads to the same state, from which the others go on.
  | case4 progress missing patient done drawn visited ih =>
    rw [Progress.repeatVisits, Progress.repeatVisits, if_neg missing, if_neg missing,
      if_neg patient, if_neg patient, reached.sound.visitAnew_eq, visited]
    exact ih (reached.visit (by omega) (by omega) visited)

/-- Under a copy limit the pool of every visit has the records that the limit allows at that time, all of them
and in their order. So no record that is still allowed later has been dropped, and the deck is filled in the same
way by visits that search all records. -/
theorem pool_recomputed (limited : 0 < assembler.settings.copyThreshold) (records : List Record)
    (source : Random.Source) :
    (∀ visits progress, assembler.Reaches records source visits progress →
      assembler.openPool progress.deck progress.pool = assembler.allowed progress.deck records ∧
      (∀ done drawn, assembler.visit progress = (.ok done, drawn) →
        done.pool = assembler.allowed progress.deck records) ∧
      ∀ later state, visits ≤ later → assembler.Reaches records source later state →
        (assembler.allowed state.deck records).Sublist
          (assembler.openPool progress.deck progress.pool)) ∧
    assembler.fill (start records source) = assembler.fillAnew records (start records source) := by
  refine ⟨fun visits progress reached => ?_, Reaches.start.fillAnew_eq.symm⟩
  -- The invariant of the states says what the pool finds, and the limit says which records these are.
  have current : assembler.openPool progress.deck progress.pool =
      assembler.allowed progress.deck records := by
    rw [reached.sound.current, openPool_eq_allowed limited]
  refine ⟨current, ?_, ?_⟩
  · intro done drawn visited
    -- A visit leaves behind the pool that it has picked from.
    obtain ⟨turn, picks, -, rfl⟩ := visit_picks visited
    exact current
  · intro later state behind further
    -- Quantities only grow, so what is allowed later is allowed now.
    rw [current]
    exact allowed_sublist (reached.quantity_le behind further) records

/-- An assembler with a slot that never picks and one that picks one record at a time, and a limit of one copy. -/
def unrepeating : Assembler where
  settings := { minTotal := 2, maxTotal := 2, copyThreshold := 1 }
  slots := [{ policy := .mostPoints, quantity := .exactly 0 }, { policy := .mostPoints }]

/-- The first slot adds nothing, and the second one adds a card of which there are two records. -/
theorem reaches_unrepeating :
    unrepeating.Reaches [bare 1, bare 2, bare 1] (.ofSeed 0) 2
      ⟨[bare 1, bare 2, bare 1], .ofEntries [⟨⟨1⟩, 1⟩], 1, some (.slot 1), 0, .ofSeed 0⟩ := by
  -- Both slots score nothing, so they pick from the front, and nothing is drawn.
  have none := (unrepeating.slotFor (.slot 0)).select_unscored rfl rfl rfl rfl (by decide)
    unrepeating.settings.caseMode [bare 1, bare 2, bare 1] (some 2) (.ofSeed 0)
  have one := (unrepeating.slotFor (.slot 1)).select_unscored rfl rfl rfl rfl (by decide)
    unrepeating.settings.caseMode [bare 1, bare 2, bare 1] (some 2) (.ofSeed 0)
  have idle : unrepeating.Picks (start [bare 1, bare 2, bare 1] (.ofSeed 0)) (.slot 0) []
      (.ofSeed 0) := .active rfl rfl none
  have first := Reaches.start.visit (by decide) (by decide) idle.visit
  have added : unrepeating.Picks
      ⟨[bare 1, bare 2, bare 1], .empty, 0, some (.slot 0), 1, .ofSeed 0⟩ (.slot 1) [bare 1]
      (.ofSeed 0) := .active rfl rfl one
  exact first.visit (by decide) (by decide) added.visit

/-- For the third visit both records of the card are dropped at once, and the other record stays. -/
theorem pool_recomputed_unrepeating :
    0 < unrepeating.settings.copyThreshold ∧ ∃ progress,
      unrepeating.Reaches [bare 1, bare 2, bare 1] (.ofSeed 0) 2 progress ∧
      progress.pool = [bare 1, bare 2, bare 1] ∧
      unrepeating.openPool progress.deck progress.pool = [bare 2] := by
  have limited : 0 < unrepeating.settings.copyThreshold := by decide
  obtain ⟨current, -, -⟩ := (pool_recomputed limited [bare 1, bare 2, bare 1] (.ofSeed 0)).1 2 _
    reaches_unrepeating
  exact ⟨limited, _, reaches_unrepeating, rfl, current.trans rfl⟩

end Decksmith.Assembler
