import Decksmith.Pattern.Braces
import Mathlib.Data.List.TakeWhile

/-! Which braces of a pattern are escaped: all but those of counted repetitions behind something that repeats. -/

namespace Decksmith.Pattern

/-- What stands between the braces of a counted repetition: a number, or a number with a comma behind it and
maybe another number behind that. -/
inductive Bounds : List Char → Prop where
  | exactly {count : List Char} (some : count ≠ []) (digits : ∀ c ∈ count, c.isDigit = true) :
      Bounds count
  | range {least most : List Char} (some : least ≠ []) (digits : ∀ c ∈ least, c.isDigit = true)
      (further : ∀ c ∈ most, c.isDigit = true) : Bounds (least ++ ',' :: most)

/-- A text in braces. -/
def braced (text : List Char) : List Char :=
  '{' :: (text ++ ['}'])

/-- The last character of a text in braces is a brace. -/
theorem getLast?_braced (text : List Char) : (braced text).getLast? = some '}' := by
  rw [braced, ← List.cons_append, List.getLast?_concat]

/-- A counted repetition: bounds in braces. -/
def Counted (text : List Char) : Prop :=
  ∃ bounds, Bounds bounds ∧ text = braced bounds

/-- The characters that stand for nothing else and escape nothing. -/
def IsPlain (c : Char) : Prop :=
  c ≠ '\\' ∧ c ≠ '{' ∧ c ≠ '}'

instance : DecidablePred IsPlain :=
  fun c => inferInstanceAs (Decidable (c ≠ '\\' ∧ c ≠ '{' ∧ c ≠ '}'))

/-- The characters behind which nothing is repeated. -/
def unrepeatable : List Char := ['(', '|', '{', '}']

/-- Behind all other characters something can be repeated. -/
theorem isRepeatable_some_iff (c : Char) : isRepeatable (some c) = true ↔ c ∉ unrepeatable := by
  simp [isRepeatable, unrepeatable, and_assoc]

/-- A digit is plain. -/
theorem isPlain_of_isDigit {c : Char} (digit : c.isDigit = true) : IsPlain c := by
  refine ⟨?_, ?_, ?_⟩ <;> rintro rfl <;> exact absurd digit (by decide)

/-- The characters of bounds are plain. -/
theorem Bounds.isPlain {bounds : List Char} (bounded : Bounds bounds) : ∀ c ∈ bounds, IsPlain c := by
  -- Bounds consist of digits and perhaps a comma.
  intro c member
  cases bounded with
  | exactly _ digits => exact isPlain_of_isDigit (digits c member)
  | range _ digits further =>
    rcases List.mem_append.mp member with first | rest
    · exact isPlain_of_isDigit (digits c first)
    · rcases List.mem_cons.mp rest with rfl | last
      · decide
      · exact isPlain_of_isDigit (further c last)

/-- Digits end where a character follows that is none. -/
theorem takeWhile_digits {digits : List Char} (all : ∀ d ∈ digits, d.isDigit = true) {c : Char}
    (stop : c.isDigit = false) (rest : List Char) :
    (digits ++ c :: rest).takeWhile Char.isDigit = digits := by
  rw [List.takeWhile_append_of_pos all, List.takeWhile_cons_of_neg (by simp [stop]), List.append_nil]

/-- Behind the digits that character is left. -/
theorem dropWhile_digits {digits : List Char} (all : ∀ d ∈ digits, d.isDigit = true) {c : Char}
    (stop : c.isDigit = false) (rest : List Char) :
    (digits ++ c :: rest).dropWhile Char.isDigit = c :: rest := by
  rw [List.dropWhile_append_of_pos all, List.dropWhile_cons_of_neg (by simp [stop])]

/-- A text goes on like a counted repetition behind its brace just when it starts with bounds and the closing
brace. -/
theorem countsRepetitions_iff (text : List Char) :
    countsRepetitions text = true ↔ ∃ bounds rest, Bounds bounds ∧ text = bounds ++ '}' :: rest := by
  have closing : '}'.isDigit = false := by decide
  have comma : ','.isDigit = false := by decide
  constructor
  · intro counts
    have digits : ∀ c ∈ text.takeWhile Char.isDigit, c.isDigit = true := fun c => List.mem_takeWhile_imp
    have parts : text.takeWhile Char.isDigit ++ text.dropWhile Char.isDigit = text :=
      List.takeWhile_append_dropWhile
    unfold countsRepetitions at counts
    split at counts
    · cases counts
    · rename_i rest left some
      exact ⟨_, rest, .exactly some digits, by rw [← left, parts]⟩
    · rename_i upper left some
      -- Behind the comma there may be digits, and then the brace has to follow.
      have further : ∀ c ∈ upper.takeWhile Char.isDigit, c.isDigit = true := fun c => List.mem_takeWhile_imp
      obtain ⟨rest, last⟩ : ∃ rest, upper.dropWhile Char.isDigit = '}' :: rest := by
        simpa [List.head?_eq_some_iff] using counts
      refine ⟨_, rest, .range some digits further, ?_⟩
      rw [List.append_assoc, List.cons_append, ← last, List.takeWhile_append_dropWhile, ← left, parts]
    · cases counts
  · rintro ⟨bounds, rest, bounded, rfl⟩
    unfold countsRepetitions
    cases bounded with
    | exactly some digits =>
      rw [takeWhile_digits digits closing, dropWhile_digits digits closing]
      obtain ⟨first, others, rfl⟩ := List.exists_cons_of_ne_nil some
      rfl
    | range some digits further =>
      rw [List.append_assoc, List.cons_append, takeWhile_digits digits comma,
        dropWhile_digits digits comma]
      obtain ⟨first, others, rfl⟩ := List.exists_cons_of_ne_nil some
      simp [dropWhile_digits further closing]

/-- A backslash behind a text does not let it go on like a counted repetition. -/
theorem countsRepetitions_append (text rest : List Char) :
    countsRepetitions (text ++ '\\' :: rest) = countsRepetitions text := by
  rw [Bool.eq_iff_iff, countsRepetitions_iff, countsRepetitions_iff]
  constructor
  · rintro ⟨bounds, behind, bounded, whole⟩
    -- The backslash is neither in the bounds nor the brace that closes them.
    rcases List.append_eq_append_iff.mp whole with ⟨inside, rfl, same⟩ | ⟨left, rfl, same⟩
    · cases inside with
      | nil => exact absurd (List.cons.inj same).1 (by decide)
      | cons c others =>
        obtain ⟨rfl, -⟩ := List.cons.inj same
        exact absurd rfl (bounded.isPlain _ (by simp)).1
    · cases left with
      | nil => exact absurd (List.cons.inj same).1 (by decide)
      | cons c others =>
        obtain ⟨rfl, -⟩ := List.cons.inj same
        exact ⟨bounds, others, bounded, rfl⟩
  · rintro ⟨bounds, behind, bounded, rfl⟩
    exact ⟨bounds, behind ++ '\\' :: rest, bounded, by simp⟩

/-- How a pattern behind a character is escaped, from the left: a backslash keeps the character behind it, a
counted repetition behind something that repeats is kept whole, and any other brace gets a backslash. -/
inductive Scanned : Option Char → List Char → List Char → Prop where
  | done (before : Option Char) : Scanned before [] []
  | dangling (before : Option Char) : Scanned before ['\\'] ['\\']
  | pair (before : Option Char) (c : Char) {pattern escaped : List Char}
      (rest : Scanned (some c) pattern escaped) :
      Scanned before ('\\' :: c :: pattern) ('\\' :: c :: escaped)
  | plain (before : Option Char) {c : Char} {pattern escaped : List Char} (plain : IsPlain c)
      (rest : Scanned (some c) pattern escaped) : Scanned before (c :: pattern) (c :: escaped)
  | repetition {before : Option Char} {bounds pattern escaped : List Char}
      (repeatable : isRepeatable before = true) (bounded : Bounds bounds)
      (rest : Scanned (some '}') pattern escaped) :
      Scanned before ('{' :: (bounds ++ '}' :: pattern)) ('{' :: (bounds ++ '}' :: escaped))
  | brace {before : Option Char} {c : Char} {pattern escaped : List Char} (brace : c = '{' ∨ c = '}')
      (alone : c = '{' → (isRepeatable before && countsRepetitions pattern) = false)
      (rest : Scanned (some c) pattern escaped) : Scanned before (c :: pattern) ('\\' :: c :: escaped)

/-- A plain character stays as it is. -/
theorem escapeBehind_plain (before : Option Char) (counting : Bool) {c : Char} (plain : IsPlain c)
    (rest : List Char) :
    escapeBehind before counting (c :: rest) = c :: escapeBehind (some c) counting rest := by
  obtain ⟨backslash, opening, closing⟩ := plain
  rw [escapeBehind.eq_4 _ _ _ _ (by simp [backslash]) (by simp [backslash]), if_neg opening, if_neg closing]

/-- A brace gets a backslash unless it opens a counted repetition. -/
theorem escapeBehind_brace {before : Option Char} {c : Char} (brace : c = '{' ∨ c = '}') {rest : List Char}
    (alone : c = '{' → (isRepeatable before && countsRepetitions rest) = false) :
    escapeBehind before false (c :: rest) = '\\' :: c :: escapeBehind (some c) false rest := by
  -- A closing brace outside of a repetition is always escaped, and an opening one where none begins.
  rcases brace with rfl | rfl
  · simp [escapeBehind, alone rfl]
  · simp [escapeBehind]

/-- What stands between braces that are kept is kept too, with the closing one. -/
theorem escapeBehind_counting (before : Option Char) {bounds : List Char}
    (plain : ∀ c ∈ bounds, IsPlain c) (rest : List Char) :
    escapeBehind before true (bounds ++ '}' :: rest) =
      bounds ++ '}' :: escapeBehind (some '}') false rest := by
  -- The bounds are passed one by one, until the closing brace ends the counting.
  induction bounds generalizing before with
  | nil => simp [escapeBehind]
  | cons c others ih =>
    obtain ⟨first, others⟩ := List.forall_mem_cons.mp plain
    rw [List.cons_append, escapeBehind_plain before true first, ih _ others, List.cons_append]

/-- A counted repetition behind something that repeats is kept. -/
theorem escapeBehind_repetition {before : Option Char} (repeatable : isRepeatable before = true)
    {bounds : List Char} (bounded : Bounds bounds) (rest : List Char) :
    escapeBehind before false ('{' :: (bounds ++ '}' :: rest)) =
      '{' :: (bounds ++ '}' :: escapeBehind (some '}') false rest) := by
  have counts := (countsRepetitions_iff _).mpr ⟨bounds, rest, bounded, rfl⟩
  simp [escapeBehind, repeatable, counts, escapeBehind_counting _ bounded.isPlain]

/-- What is scanned is what escaping gives. -/
theorem Scanned.eq {before : Option Char} {pattern escaped : List Char}
    (scanned : Scanned before pattern escaped) : escapeBehind before false pattern = escaped := by
  -- Each kind of step is a step of the escaping.
  induction scanned with
  | done before => rw [escapeBehind]
  | dangling before => rw [escapeBehind]
  | pair before c _ ih => rw [escapeBehind, ih]
  | plain before plain _ ih => rw [escapeBehind_plain _ _ plain, ih]
  | repetition repeatable bounded _ ih => rw [escapeBehind_repetition repeatable bounded, ih]
  | brace brace alone _ ih => rw [escapeBehind_brace brace alone, ih]

/-- Every pattern is scanned. -/
theorem scanned_escapeBehind (before : Option Char) (pattern : List Char) :
    Scanned before pattern (escapeBehind before false pattern) := by
  -- The cases are those of the scan, and what is behind the step is scanned in turn.
  match pattern with
  | [] => exact .done before
  | c :: rest =>
    by_cases backslash : c = '\\'
    · subst backslash
      cases rest with
      | nil => exact .dangling before
      | cons c rest => exact .pair before c (scanned_escapeBehind (some c) rest)
    by_cases brace : c = '{' ∨ c = '}'
    · by_cases counts : c = '{' ∧ (isRepeatable before && countsRepetitions rest) = true
      · obtain ⟨rfl, counts⟩ := counts
        obtain ⟨repeatable, counts⟩ := Bool.and_eq_true_iff.mp counts
        obtain ⟨bounds, behind, bounded, rfl⟩ := (countsRepetitions_iff rest).mp counts
        rw [escapeBehind_repetition repeatable bounded]
        exact .repetition repeatable bounded (scanned_escapeBehind (some '}') behind)
      · have alone : c = '{' → (isRepeatable before && countsRepetitions rest) = false :=
          fun opening => Bool.eq_false_iff.mpr fun both => counts ⟨opening, both⟩
        rw [escapeBehind_brace brace alone]
        exact .brace brace alone (scanned_escapeBehind (some c) rest)
    · have plain : IsPlain c := ⟨backslash, not_or.mp brace⟩
      rw [escapeBehind_plain before false plain]
      exact .plain before plain (scanned_escapeBehind (some c) rest)
termination_by pattern.length

/-- An escaped pattern is scanned without a change. -/
theorem Scanned.again {before : Option Char} {pattern escaped : List Char}
    (scanned : Scanned before pattern escaped) : Scanned before escaped escaped := by
  induction scanned with
  | done before => exact .done before
  | dangling before => exact .dangling before
  | pair before c _ ih => exact .pair before c ih
  | plain before plain _ ih => exact .plain before plain ih
  | repetition repeatable bounded _ ih => exact .repetition repeatable bounded ih
  -- The backslash in front of a brace now keeps it.
  | brace _ _ _ ih => exact .pair _ _ ih

end Decksmith.Pattern
