import Decksmith.Proofs.Pattern.Braces

/-! Escaped patterns: only braces get backslashes, and only those that stand for themselves, but also those of
counted repetitions behind some escaped characters. -/

namespace Decksmith.Pattern

/-- A text in which some braces of another text have got a backslash each. -/
inductive Backslashed : List Char → List Char → Prop where
  | nil : Backslashed [] []
  | same (c : Char) {text longer : List Char} (rest : Backslashed text longer) :
      Backslashed (c :: text) (c :: longer)
  | brace {c : Char} {text longer : List Char} (brace : c = '{' ∨ c = '}')
      (rest : Backslashed text longer) : Backslashed (c :: text) ('\\' :: c :: longer)

/-- What stands in front of two texts stays the same. -/
theorem Backslashed.append (front : List Char) {text longer : List Char}
    (rest : Backslashed text longer) : Backslashed (front ++ text) (front ++ longer) := by
  -- Every character in front is the same in both texts.
  induction front with
  | nil => exact rest
  | cons c _ ih => exact .same c ih

/-- Escaping only puts backslashes in front of braces. -/
theorem Scanned.backslashed {before : Option Char} {pattern escaped : List Char}
    (scanned : Scanned before pattern escaped) : Backslashed pattern escaped := by
  -- A step keeps what it reads or puts a backslash in front of a brace.
  induction scanned with
  | done _ => exact .nil
  | dangling _ => exact .same _ .nil
  | pair _ c _ ih => exact .same _ (.same c ih)
  | plain _ _ _ ih => exact .same _ ih
  | repetition _ _ _ ih => exact .same _ (.append _ (.same _ ih))
  | brace brace _ _ ih => exact .brace brace ih

/-- A text at the end of which no backslash waits for a character, if every backslash takes the character
behind it. -/
inductive Settled : List Char → Prop where
  | nil : Settled []
  | single {c : Char} {text : List Char} (plain : c ≠ '\\') (rest : Settled text) : Settled (c :: text)
  | pair (c : Char) {text : List Char} (rest : Settled text) : Settled ('\\' :: c :: text)

namespace Settled

/-- Any character but a backslash leaves a text settled. -/
theorem single_iff {c : Char} (plain : c ≠ '\\') {text : List Char} :
    Settled (c :: text) ↔ Settled text := by
  refine ⟨fun whole => ?_, .single plain⟩
  -- Only a backslash could start a pair.
  cases whole with
  | single _ rest => exact rest
  | pair _ _ => exact absurd rfl plain

/-- So does a backslash together with the character behind it. -/
@[simp] theorem pair_iff {c : Char} {text : List Char} :
    Settled ('\\' :: c :: text) ↔ Settled text := by
  refine ⟨fun whole => ?_, .pair c⟩
  -- A backslash does not stand alone where a character follows it.
  cases whole with
  | single plain _ => exact absurd rfl plain
  | pair _ rest => exact rest

/-- A backslash alone waits for a character. -/
theorem not_dangling : ¬ Settled ['\\'] := by
  intro whole
  cases whole with
  | single plain _ => exact plain rfl

/-- Behind a settled text another text is read as it is by itself. -/
theorem append_iff {front : List Char} (settled : Settled front) {back : List Char} :
    Settled (front ++ back) ↔ Settled back := by
  -- A settled text takes its characters alone or in pairs, and nothing of it waits for what follows.
  induction settled with
  | nil => rfl
  | single plain _ ih => rw [List.cons_append, single_iff plain, ih]
  | pair c _ ih => rw [List.cons_append, List.cons_append, pair_iff, ih]

/-- A text without backslashes is settled. -/
theorem of_not_mem {text : List Char} (none : '\\' ∉ text) : Settled text := by
  -- Without backslashes every character is taken alone.
  induction text with
  | nil => exact .nil
  | cons c rest ih =>
    obtain ⟨first, others⟩ := not_or.mp (List.mem_cons.not.mp none)
    exact .single (Ne.symm first) (ih others)

end Settled

/-- A counted repetition is settled. -/
theorem Bounds.settled_braced {bounds : List Char} (bounded : Bounds bounds) : Settled (braced bounds) := by
  -- Neither the braces nor the bounds between them are backslashes.
  refine .of_not_mem fun member => ?_
  have inside : '\\' ∈ bounds := by simpa [braced] using member
  exact (bounded.isPlain _ inside).1 rfl

/-- The brace behind a settled text is the first or the last one of a counted repetition, and in front of that
stands something that repeats. -/
def Delimits (before : Option Char) (text front : List Char) (c : Char) : Prop :=
  ∃ start repetition rest, text = start ++ (repetition ++ rest) ∧ Settled start ∧ Counted repetition ∧
    isRepeatable (start.getLast?.or before) = true ∧
    (c = '{' ∧ start = front ∨ c = '}' ∧ start ++ repetition = front ++ [c])

/-- Every brace that no backslash takes belongs to a counted repetition behind something that repeats. -/
def Delimited (before : Option Char) (text : List Char) : Prop :=
  ∀ front c back, text = front ++ c :: back → Settled front → c = '{' ∨ c = '}' →
    Delimits before text front c

/-- What a brace delimits stays the same behind a settled text. -/
theorem Delimits.behind {word text front : List Char} {last c : Char} (settled : Settled word)
    (ends : word.getLast? = some last) (delimits : Delimits (some last) text front c)
    (before : Option Char) : Delimits before (word ++ text) (word ++ front) c := by
  obtain ⟨start, repetition, rest, rfl, inner, counted, repeatable, place⟩ := delimits
  refine ⟨word ++ start, repetition, rest, by simp, settled.append_iff.mpr inner, counted, ?_, ?_⟩
  -- Where the repetition begins the text, it is repeated what the word ends with.
  · rw [List.getLast?_append, Option.or_assoc, ends]
    exact repeatable
  -- The brace opens or closes the same repetition as before.
  · rcases place with ⟨opening, rfl⟩ | ⟨closing, ends⟩
    · exact .inl ⟨opening, rfl⟩
    · exact .inr ⟨closing, by rw [List.append_assoc, ends, List.append_assoc]⟩

namespace Delimited

/-- A backslash takes the character behind it, whichever it is. -/
theorem pair (before : Option Char) {x : Char} {text : List Char} (rest : Delimited (some x) text) :
    Delimited before ('\\' :: x :: text) := by
  intro front c back whole settled brace
  match front with
  | [] =>
    obtain ⟨rfl, -⟩ := List.cons.inj whole
    exact absurd brace (by decide)
  -- A settled text does not end with the backslash.
  | [first] =>
    obtain ⟨rfl, -⟩ := List.cons.inj whole
    exact absurd settled Settled.not_dangling
  | first :: second :: others =>
    obtain ⟨rfl, next⟩ := List.cons.inj whole
    obtain ⟨rfl, tail⟩ := List.cons.inj next
    exact (rest others c back tail (Settled.pair_iff.mp settled) brace).behind (.pair x .nil) rfl before

/-- A plain character is no brace. -/
theorem plain (before : Option Char) {x : Char} (plain : IsPlain x) {text : List Char}
    (rest : Delimited (some x) text) : Delimited before (x :: text) := by
  intro front c back whole settled brace
  cases front with
  | nil =>
    obtain ⟨rfl, -⟩ := List.cons.inj whole
    exact absurd brace (not_or.mpr plain.2)
  -- The brace stands further on, behind a text that the character may begin.
  | cons first others =>
    obtain ⟨rfl, tail⟩ := List.cons.inj whole
    exact (rest others c back tail ((Settled.single_iff plain.1).mp settled) brace).behind
      (.single plain.1 .nil) rfl before

/-- The braces of a counted repetition are its first and its last character. -/
theorem repetition {before : Option Char} (repeatable : isRepeatable before = true) {bounds : List Char}
    (bounded : Bounds bounds) {text : List Char} (rest : Delimited (some '}') text) :
    Delimited before (braced bounds ++ text) := by
  have opening : Delimits before (braced bounds ++ text) [] '{' :=
    ⟨[], braced bounds, text, rfl, .nil, ⟨bounds, bounded, rfl⟩, repeatable, .inl ⟨rfl, rfl⟩⟩
  have closing : Delimits before (braced bounds ++ text) ('{' :: bounds) '}' :=
    ⟨[], braced bounds, text, rfl, .nil, ⟨bounds, bounded, rfl⟩, repeatable, .inr ⟨rfl, rfl⟩⟩
  have whole : braced bounds ++ text = '{' :: (bounds ++ '}' :: text) := by simp [braced]
  rintro (_ | ⟨first, others⟩) c back parts settled brace
  · rw [whole] at parts
    obtain ⟨rfl, -⟩ := List.cons.inj parts
    exact opening
  · rw [whole] at parts
    obtain ⟨rfl, inner⟩ := List.cons.inj parts
    rcases List.append_eq_append_iff.mp inner with ⟨left, rfl, tail⟩ | ⟨left, rfl, tail⟩
    · cases left with
      | nil =>
        obtain ⟨rfl, -⟩ := List.cons.inj tail
        simpa using closing
      | cons x left =>
        -- This brace stands behind the repetition.
        obtain ⟨rfl, further⟩ := List.cons.inj tail
        have front : '{' :: (bounds ++ '}' :: left) = braced bounds ++ left := by simp [braced]
        have solid := bounded.settled_braced
        rw [front] at settled ⊢
        exact (rest left c back further (solid.append_iff.mp settled) brace).behind solid
          (getLast?_braced bounds) before
    · cases left with
      | nil =>
        obtain ⟨rfl, -⟩ := List.cons.inj tail
        simpa using closing
      | cons x left =>
        -- Between the braces stand plain characters only.
        obtain ⟨rfl, -⟩ := List.cons.inj tail
        exact absurd brace (not_or.mpr (bounded.isPlain c (by simp)).2)

end Delimited

/-- What escaping gives has no other braces. -/
theorem Scanned.delimited {before : Option Char} {pattern escaped : List Char}
    (scanned : Scanned before pattern escaped) : Delimited before escaped := by
  induction scanned with
  | done _ =>
    intro front c back whole
    simp at whole
  | dangling _ =>
    -- The only character is no brace.
    intro front c back whole _ brace
    obtain rfl : c = '\\' := List.mem_singleton.mp (whole ▸ List.mem_append_cons_self)
    exact absurd brace (by decide)
  | pair before _ _ ih => exact ih.pair before
  | plain before plain _ ih => exact ih.plain before plain
  | repetition repeatable bounded _ ih => simpa [braced] using ih.repetition repeatable bounded
  | brace _ _ _ ih => exact ih.pair _

/-- A text with a backslash in front of every brace. -/
def fullyEscaped (text : List Char) : List Char :=
  text.flatMap fun c => if c = '{' ∨ c = '}' then ['\\', c] else [c]

/-- Each part of a text is escaped by itself. -/
theorem fullyEscaped_append (front back : List Char) :
    fullyEscaped (front ++ back) = fullyEscaped front ++ fullyEscaped back :=
  List.flatMap_append

/-- A plain text has nothing to escape. -/
theorem fullyEscaped_plain {text : List Char} (plain : ∀ c ∈ text, IsPlain c) :
    fullyEscaped text = text := by
  -- No character of the text is a brace.
  induction text with
  | nil => rfl
  | cons c rest ih =>
    obtain ⟨first, others⟩ := List.forall_mem_cons.mp plain
    rw [fullyEscaped, List.flatMap_cons, if_neg (not_or.mpr first.2), ← fullyEscaped, ih others]
    rfl

/-- A plain text in braces gets two backslashes. -/
theorem fullyEscaped_braced {text : List Char} (plain : ∀ c ∈ text, IsPlain c) :
    fullyEscaped (braced text) = '\\' :: '{' :: (text ++ ['\\', '}']) := by
  have opening : fullyEscaped ['{'] = ['\\', '{'] := rfl
  have closing : fullyEscaped ['}'] = ['\\', '}'] := rfl
  -- Each piece is escaped by itself: one brace, the text that stays, and the other brace.
  rw [braced, ← List.singleton_append, fullyEscaped_append, fullyEscaped_append, fullyEscaped_plain plain,
    opening, closing]
  rfl

namespace Scanned

/-- A plain text is kept, whatever stands in front of it. -/
theorem plainText {text : List Char} (plain : ∀ c ∈ text, IsPlain c) {pattern escaped : List Char}
    (rest : ∀ before, Scanned before pattern escaped) (before : Option Char) :
    Scanned before (text ++ pattern) (text ++ escaped) := by
  -- What stands in front only matters to braces, of which the text has none.
  induction text generalizing before with
  | nil => exact rest before
  | cons c others ih =>
    obtain ⟨first, others⟩ := List.forall_mem_cons.mp plain
    exact .plain before first (ih others (some c))

/-- Where nothing repeats, both braces around a plain text are escaped. -/
theorem unrepeated {before : Option Char} (repeatable : isRepeatable before = false) {text : List Char}
    (plain : ∀ c ∈ text, IsPlain c) {pattern escaped : List Char}
    (rest : Scanned (some '}') pattern escaped) :
    Scanned before (braced text ++ pattern) (fullyEscaped (braced text) ++ escaped) := by
  -- The closing brace ends nothing, and the opening one begins nothing.
  have closing : ∀ before, Scanned before ('}' :: pattern) ('\\' :: '}' :: escaped) :=
    fun _ => .brace (.inr rfl) (fun other => absurd other (by decide)) rest
  have opening : Scanned before ('{' :: (text ++ '}' :: pattern))
      ('\\' :: '{' :: (text ++ '\\' :: '}' :: escaped)) :=
    .brace (.inl rfl) (fun _ => by rw [repeatable, Bool.false_and]) (plainText plain closing _)
  rw [fullyEscaped_braced plain]
  simpa [braced] using opening

/-- Plain texts in braces, one behind the other, have all their braces escaped. -/
theorem symbols {before : Option Char} (repeatable : isRepeatable before = false)
    {symbols : List (List Char)} (plain : ∀ symbol ∈ symbols, ∀ c ∈ symbol, IsPlain c) :
    Scanned before (symbols.flatMap braced) (fullyEscaped (symbols.flatMap braced)) := by
  induction symbols generalizing before with
  | nil => exact .done before
  | cons symbol others ih =>
    obtain ⟨first, others⟩ := List.forall_mem_cons.mp plain
    rw [List.flatMap_cons, fullyEscaped_append]
    -- The brace that closes one symbol is in front of the next one.
    exact unrepeated repeatable first (ih rfl others)

end Scanned

/-- Escaping puts single backslashes in front of some braces and changes nothing else. A second time it
changes nothing at all. Every brace that then has no backslash opens or closes a counted repetition that has
a character directly in front of it behind which something can be repeated. In a series of plain texts in
braces every brace gets a backslash. -/
theorem escapeBraces_conservative (pattern : List Char) :
    Backslashed pattern (escapeBraces pattern) ∧
    escapeBraces (escapeBraces pattern) = escapeBraces pattern ∧
    (∀ front back, escapeBraces pattern = front ++ '{' :: back → Settled front →
      ∃ repetition rest, '{' :: back = repetition ++ rest ∧ Counted repetition ∧
        ∃ c, front.getLast? = some c ∧ c ∉ unrepeatable) ∧
    (∀ front back, escapeBraces pattern = front ++ '}' :: back → Settled front →
      ∃ start repetition, front ++ ['}'] = start ++ repetition ∧ Counted repetition ∧ Settled start ∧
        ∃ c, start.getLast? = some c ∧ c ∉ unrepeatable) ∧
    ∀ symbols : List (List Char), (∀ symbol ∈ symbols, ∀ c ∈ symbol, IsPlain c) →
      pattern = symbols.flatMap braced → escapeBraces pattern = fullyEscaped pattern := by
  have scanned : Scanned none pattern (escapeBraces pattern) := scanned_escapeBehind none pattern
  -- At the start of a pattern nothing is there to be repeated.
  have last : ∀ text : List Char, isRepeatable (text.getLast?.or none) = true →
      ∃ c, text.getLast? = some c ∧ c ∉ unrepeatable := by
    intro text repeatable
    rw [Option.or_none] at repeatable
    cases found : text.getLast? with
    | none =>
      rw [found] at repeatable
      cases repeatable
    | some c =>
      rw [found] at repeatable
      exact ⟨c, rfl, (isRepeatable_some_iff c).mp repeatable⟩
  refine ⟨scanned.backslashed, scanned.again.eq, fun front back whole settled => ?_,
    fun front back whole settled => ?_, fun symbols plain same => ?_⟩
  · obtain ⟨start, repetition, rest, parts, -, counted, repeatable, ⟨-, rfl⟩ | ⟨other, -⟩⟩ :=
      scanned.delimited front '{' back whole settled (.inl rfl)
    · exact ⟨repetition, rest, List.append_cancel_left (whole.symm.trans parts), counted,
        last start repeatable⟩
    · exact absurd other (by decide)
  · obtain ⟨start, repetition, rest, -, before, counted, repeatable, ⟨other, -⟩ | ⟨-, ends⟩⟩ :=
      scanned.delimited front '}' back whole settled (.inr rfl)
    · exact absurd other (by decide)
    · exact ⟨start, repetition, ends.symm, counted, before, last start repeatable⟩
  -- A series of symbols starts where nothing repeats and goes on behind closing braces.
  · subst same
    have nothing : isRepeatable none = false := rfl
    exact (Scanned.symbols nothing plain).eq

/-- Both parts of a series of symbols are escaped, and a brace that has no backslash stands behind one that
has. -/
theorem escapeBraces_conservative_mixed :
    escapeBraces ['{', '2', '}', '{', 'U', '}'] =
      ['\\', '{', '2', '\\', '}', '\\', '{', 'U', '\\', '}'] ∧
    (escapeBraces ['{', 'x', '{', '2', '}'] = ['\\', '{', 'x'] ++ '{' :: ['2', '}'] ∧
      Settled ['\\', '{', 'x']) ∧
    ∃ repetition rest, '{' :: ['2', '}'] = repetition ++ rest ∧ Counted repetition ∧
      ∃ c, ['\\', '{', 'x'].getLast? = some c ∧ c ∉ unrepeatable := by
  have escaped : escapeBraces ['{', 'x', '{', '2', '}'] = ['\\', '{', 'x'] ++ '{' :: ['2', '}'] := by decide
  -- The escaped brace and the letter are settled, so the next brace is none that was escaped.
  have settled : Settled ['\\', '{', 'x'] := .pair '{' (.single (by decide) .nil)
  refine ⟨?_, ⟨escaped, settled⟩, ?_⟩
  · exact (escapeBraces_conservative _).2.2.2.2 [['2'], ['U']] (by simp [IsPlain]) rfl
  · exact (escapeBraces_conservative _).2.2.1 _ _ escaped settled

namespace Scanned

/-- A settled text in front of a backslash and a character is scanned as it is by itself. -/
theorem append_pair {before : Option Char} {front escaped : List Char}
    (scanned : Scanned before front escaped) (settled : Settled front) {c : Char}
    {pattern further : List Char} (rest : Scanned (some c) pattern further) :
    Scanned before (front ++ '\\' :: c :: pattern) (escaped ++ '\\' :: c :: further) := by
  induction scanned with
  | done before => exact .pair before c rest
  | dangling _ => exact absurd settled Settled.not_dangling
  | pair before x _ ih => exact .pair before x (ih (Settled.pair_iff.mp settled))
  | plain before plain _ ih => exact .plain before plain (ih ((Settled.single_iff plain.1).mp settled))
  | @repetition _ bounds pattern _ repeatable bounded _ ih =>
    have parts : '{' :: (bounds ++ '}' :: pattern) = braced bounds ++ pattern := by simp [braced]
    rw [parts, bounded.settled_braced.append_iff] at settled
    simpa using repetition repeatable bounded (ih settled)
  | @brace _ x _ _ brace alone _ ih =>
    have plain : x ≠ '\\' := by
      rintro rfl
      exact absurd brace (by decide)
    -- A repetition would have to end in front of the backslash.
    refine .brace brace (fun opening => ?_) (ih ((Settled.single_iff plain).mp settled))
    exact (congrArg _ (countsRepetitions_append _ _)).trans (alone opening)

/-- A counted repetition is kept where something repeats. -/
theorem repeated {before : Option Char} (repeatable : isRepeatable before = true) {bounds : List Char}
    (bounded : Bounds bounds) {pattern escaped : List Char} (rest : Scanned (some '}') pattern escaped) :
    Scanned before (braced bounds ++ pattern) (braced bounds ++ escaped) := by
  simpa [braced] using repetition repeatable bounded rest

end Scanned

/-- A counted repetition behind a backslash and a character is kept just when this character is no opening
parenthesis, no bar and no brace. Behind one of these both of its braces are escaped. -/
theorem escapeBraces_behind_pair {front repetition : List Char} (settled : Settled front)
    (counted : Counted repetition) (c : Char) (back : List Char) :
    ((∃ rest, escapeBraces (front ++ '\\' :: c :: (repetition ++ back)) =
        escapeBraces front ++ '\\' :: c :: (repetition ++ rest)) ↔ c ∉ unrepeatable) ∧
    (c ∈ unrepeatable → ∃ rest, escapeBraces (front ++ '\\' :: c :: (repetition ++ back)) =
      escapeBraces front ++ '\\' :: c :: (fullyEscaped repetition ++ rest)) := by
  obtain ⟨bounds, bounded, rfl⟩ := counted
  have first : Scanned none front (escapeBraces front) := scanned_escapeBehind none front
  have rest := scanned_escapeBehind (some '}') back
  have kept : c ∉ unrepeatable → ∃ rest, escapeBraces (front ++ '\\' :: c :: (braced bounds ++ back)) =
      escapeBraces front ++ '\\' :: c :: (braced bounds ++ rest) := by
    intro repeatable
    have repeatable := (isRepeatable_some_iff c).mpr repeatable
    exact ⟨_, (first.append_pair settled (.repeated repeatable bounded rest)).eq⟩
  have lost : c ∈ unrepeatable → ∃ rest, escapeBraces (front ++ '\\' :: c :: (braced bounds ++ back)) =
      escapeBraces front ++ '\\' :: c :: (fullyEscaped (braced bounds) ++ rest) := by
    intro unrepeatable
    have unrepeatable : isRepeatable (some c) = false := by
      rwa [← Bool.not_eq_true, isRepeatable_some_iff, not_not]
    exact ⟨_, (first.append_pair settled (.unrepeated unrepeatable bounded.isPlain rest)).eq⟩
  refine ⟨⟨?_, kept⟩, lost⟩
  rintro ⟨one, same⟩ member
  obtain ⟨other, different⟩ := lost member
  -- An escaped repetition starts with a backslash, and one that is kept with a brace.
  rw [same, fullyEscaped_braced bounded.isPlain] at different
  have parts := List.append_cancel_left different
  simp [braced] at parts

/-- A single digit in braces is a counted repetition. -/
theorem counted_two : Counted ['{', '2', '}'] :=
  ⟨['2'], .exactly (by decide) (by simp), rfl⟩

/-- A counted repetition is kept behind an escaped dot. -/
theorem escapeBraces_behind_pair_dot :
    Settled ['x'] ∧ Counted ['{', '2', '}'] ∧
      ∃ rest, escapeBraces (['x'] ++ '\\' :: '.' :: (['{', '2', '}'] ++ ['y'])) =
        escapeBraces ['x'] ++ '\\' :: '.' :: (['{', '2', '}'] ++ rest) := by
  have settled : Settled ['x'] := .single (by decide) .nil
  -- A dot is no character that nothing can be repeated behind.
  have kept := (escapeBraces_behind_pair settled counted_two '.' ['y']).1.mpr (by decide)
  exact ⟨settled, counted_two, kept⟩

/-- Behind an escaped parenthesis, which could well be repeated, a counted repetition is not kept. -/
theorem escapeBraces_behind_parenthesis :
    Settled [] ∧ Counted ['{', '2', '}'] ∧
      ¬ ∃ rest, escapeBraces ([] ++ '\\' :: '(' :: (['{', '2', '}'] ++ [])) =
        escapeBraces [] ++ '\\' :: '(' :: (['{', '2', '}'] ++ rest) := by
  refine ⟨.nil, counted_two, ?_⟩
  rintro ⟨rest, kept⟩
  -- The parenthesis is looked at without the backslash in front of it.
  have escaped : escapeBraces ([] ++ '\\' :: '(' :: (['{', '2', '}'] ++ [])) =
      ['\\', '(', '\\', '{', '2', '\\', '}'] := by decide
  rw [escaped] at kept
  simp [escapeBraces, escapeBehind] at kept

end Decksmith.Pattern
