import Decksmith.Proofs.Text.Trimming
import Decksmith.Query.Predicate
import Mathlib.Data.List.SplitBy

/-! The lexemes of a text: they are free of blanks and make up the rest of the text, and blanks keep them apart. -/

namespace Decksmith

namespace Text

/-- The code points of the blanks. -/
def blanks : List Nat :=
  [0x09, 0x0A, 0x0B, 0x0C, 0x0D, 0x20, 0x85, 0xA0, 0x1680, 0x2000, 0x2001, 0x2002, 0x2003, 0x2004,
   0x2005, 0x2006, 0x2007, 0x2008, 0x2009, 0x200A, 0x2028, 0x2029, 0x202F, 0x205F, 0x3000]

/-- There are no other blanks. -/
theorem mem_blanks {c : Char} (blank : isBlank c = true) : c.toNat ∈ blanks := by
  -- The ranges that are tested for are listed one by one.
  simp only [isBlank, Bool.or_eq_true, Bool.and_eq_true, decide_eq_true_eq, beq_iff_eq] at blank
  simp only [blanks, List.mem_cons, List.not_mem_nil, or_false]
  omega

/-- A blank is part of no word. -/
theorem not_isAlphanumeric_of_isBlank {c : Char} (blank : isBlank c = true) :
    isAlphanumeric c = false := by
  -- The blanks are few enough to look at each of them.
  have general : ∀ code ∈ blanks, isAlphanumeric (Char.ofNat code) = false := by decide +kernel
  simpa using general c.toNat (mem_blanks blank)

/-- A text without blanks. -/
def Solid (text : List Char) : Prop :=
  ∀ c ∈ text, isBlank c = false

instance : DecidablePred Solid :=
  List.decidableBAll fun c => isBlank c = false

/-- A text without its blanks. -/
def withoutBlanks (text : List Char) : List Char :=
  text.filter fun c => !isBlank c

/-- Nothing is missing from a text without blanks. -/
theorem Solid.withoutBlanks {text : List Char} (solid : Solid text) : Text.withoutBlanks text = text :=
  List.filter_eq_self.mpr fun c member => by rw [solid c member, Bool.not_false]

/-- Nothing is left of a blank text. -/
theorem withoutBlanks_blank {text : List Char} (blank : text.all isBlank = true) : withoutBlanks text = [] := by
  simpa [Text.withoutBlanks] using blank

/-- Blanks are taken out of each part of a text. -/
theorem withoutBlanks_append (front back : List Char) :
    withoutBlanks (front ++ back) = withoutBlanks front ++ withoutBlanks back :=
  List.filter_append ..

/-- Trimming leaves a text without blanks as it is. -/
theorem Solid.trim {text : List Char} (solid : Solid text) : Text.trim text = text := by
  -- Both ends are trimmed in the same way, one of them on the reversed text.
  have untouched : ∀ text : List Char, Solid text → text.dropWhile isBlank = text := by
    intro text solid
    cases text with
    | nil => rfl
    | cons c rest => simp [solid c (by simp)]
  unfold Text.trim trimStart trimEnd
  rw [untouched text solid, untouched text.reverse (fun c member => solid c (by simpa using member)),
    List.reverse_reverse]

end Text

namespace Predicate

/-- Only blanks are of the blank kind. -/
@[simp] theorem kindOf_eq_blank (c : Char) : kindOf c = .blank ↔ Text.isBlank c = true := by
  by_cases blank : Text.isBlank c
  -- The kinds of words are looked at first, but no blank belongs to a word.
  · have word : Text.isAlphanumeric c = false := Text.not_isAlphanumeric_of_isBlank blank
    have line : c ≠ '_' := fun same => by simp [same, Text.isBlank] at blank
    simp [kindOf, blank, word, line]
  · unfold kindOf
    split_ifs <;> simp [blank]

/-- A blank is of another kind than what is none. -/
theorem kindOf_ne {a b : Char} (differ : Text.isBlank a ≠ Text.isBlank b) : kindOf a ≠ kindOf b := by
  -- Whether a character is a blank can be told from its kind.
  intro same
  refine differ ?_
  rw [Bool.eq_iff_iff, ← kindOf_eq_blank, ← kindOf_eq_blank, same]

/-- The characters of a run are all of the kind of its first. -/
theorem kindOf_of_isChain {first : Char} {run : List Char}
    (chain : (first :: run).IsChain fun a b => (kindOf a == kindOf b) = true) :
    ∀ c ∈ run, kindOf c = kindOf first := by
  -- Each character is of the kind of its neighbor, and so of the first one.
  induction run generalizing first with
  | nil => simp
  | cons second others ih =>
    obtain ⟨same, chain⟩ := List.isChain_cons_cons.mp chain
    have same : kindOf first = kindOf second := by simpa using same
    simpa [same] using ih chain

/-- A lexeme has characters, and none of them is a blank. -/
theorem solid_of_mem_lexemes {text run : List Char} (member : run ∈ lexemes text) :
    run ≠ [] ∧ Text.Solid run := by
  obtain ⟨found, some⟩ := List.mem_filter.mp member
  refine ⟨List.ne_nil_of_mem_splitBy found, ?_⟩
  have chain := List.isChain_of_mem_splitBy found
  cases run with
  | nil => simp at some
  | cons first others =>
    have uniform := kindOf_of_isChain chain
    -- If the first character were a blank, the whole run would be blank.
    have solid : Text.isBlank first = false := by
      by_contra blank
      have blank : Text.isBlank first = true := by simpa using blank
      have later : ∀ c ∈ others, Text.isBlank c = true := fun c member => by
        rw [← kindOf_eq_blank, uniform c member, kindOf_eq_blank, blank]
      have all : (first :: others).all Text.isBlank = true := by simpa [blank] using later
      rw [all] at some
      cases some
    intro c member
    -- Every later character is of the kind of the first one.
    rcases List.mem_cons.mp member with rfl | later
    · exact solid
    · have same := uniform c later
      by_contra blank
      rw [(kindOf_eq_blank c).mpr (by simpa using blank), eq_comm, kindOf_eq_blank, solid] at same
      exact Bool.false_ne_true same

/-- A text breaks into lexemes wherever the kind of its characters changes. -/
theorem lexemes_append {front back : List Char}
    (differ : ∀ a ∈ front.getLast?, ∀ b ∈ back.head?, kindOf a ≠ kindOf b) :
    lexemes (front ++ back) = lexemes front ++ lexemes back := by
  unfold lexemes
  rw [List.splitBy_append fun a last b first => by simpa using differ a last b first,
    List.filter_append]

/-- A blank text has no lexemes. -/
theorem lexemes_blank {text : List Char} (blank : text.all Text.isBlank = true) :
    lexemes text = [] := by
  refine List.eq_nil_iff_forall_not_mem.mpr fun run member => ?_
  obtain ⟨found, some⟩ := List.mem_filter.mp member
  -- The characters of a run are characters of the text.
  have all : run.all Text.isBlank = true := by
    refine List.all_eq_true.mpr fun c here => List.all_eq_true.mp blank c ?_
    rw [← List.flatten_splitBy (fun a b => kindOf a == kindOf b) text]
    exact List.mem_flatten_of_mem found here
  simp [all] at some

/-- Blanks at the start of a text do not change its lexemes. -/
theorem lexemes_trimStart (text : List Char) : lexemes (Text.trimStart text) = lexemes text := by
  obtain ⟨front, blank, parts⟩ := Text.exists_trimStart text
  -- The kind of the characters changes where the text begins that is left.
  have differ : ∀ a ∈ front.getLast?, ∀ b ∈ (Text.trimStart text).head?, kindOf a ≠ kindOf b := by
    intro a last b first
    refine kindOf_ne ?_
    simp [List.all_eq_true.mp blank a (List.mem_of_getLast? last),
      Text.not_isBlank_of_head?_trimStart b first]
  calc lexemes (Text.trimStart text)
      = lexemes front ++ lexemes (Text.trimStart text) := by rw [lexemes_blank blank, List.nil_append]
    _ = lexemes text := by rw [← lexemes_append differ, ← parts]

/-- Blanks at the end of a text do not change its lexemes. -/
theorem lexemes_trimEnd (text : List Char) : lexemes (Text.trimEnd text) = lexemes text := by
  obtain ⟨back, blank, parts⟩ := Text.exists_trimEnd text
  -- As at the start, the kind changes where the blanks begin.
  have differ : ∀ a ∈ (Text.trimEnd text).getLast?, ∀ b ∈ back.head?, kindOf a ≠ kindOf b := by
    intro a last b first
    refine kindOf_ne ?_
    simp [List.all_eq_true.mp blank b (List.mem_of_mem_head? first),
      Text.not_isBlank_of_getLast?_trimEnd a last]
  calc lexemes (Text.trimEnd text)
      = lexemes (Text.trimEnd text) ++ lexemes back := by rw [lexemes_blank blank, List.append_nil]
    _ = lexemes text := by rw [← lexemes_append differ, ← parts]

/-- Blanks behind a text do not change its lexemes. -/
theorem lexemes_append_blank (text : List Char) {back : List Char} (blank : back.all Text.isBlank = true) :
    lexemes (text ++ back) = lexemes text := by
  rw [← lexemes_trimEnd, Text.trimEnd_append blank, lexemes_trimEnd]

/-- Blanks between two texts keep the lexemes of one apart from those of the other. -/
theorem lexemes_gap (front : List Char) {gap : List Char} (some : gap ≠ [])
    (blank : gap.all Text.isBlank = true) (rest : List Char) :
    lexemes (front ++ (gap ++ rest)) = lexemes front ++ lexemes rest := by
  -- The text behind the gap may start with blanks as well, so these are taken into the gap.
  obtain ⟨lead, before, parts⟩ := Text.exists_trimStart rest
  have wide : (gap ++ lead).all Text.isBlank = true := by rw [List.all_append, blank, before, Bool.and_self]
  have differ : ∀ a ∈ (front ++ (gap ++ lead)).getLast?, ∀ b ∈ (Text.trimStart rest).head?,
      kindOf a ≠ kindOf b := by
    intro a last b first
    rw [List.getLast?_append_of_ne_nil _ (List.append_ne_nil_of_left_ne_nil some lead)] at last
    refine kindOf_ne ?_
    simp [List.all_eq_true.mp wide a (List.mem_of_getLast? last),
      Text.not_isBlank_of_head?_trimStart b first]
  calc lexemes (front ++ (gap ++ rest))
      = lexemes (front ++ (gap ++ lead) ++ Text.trimStart rest) := by
        simp only [List.append_assoc, ← parts]
    _ = lexemes (front ++ (gap ++ lead)) ++ lexemes (Text.trimStart rest) := lexemes_append differ
    _ = lexemes front ++ lexemes rest := by rw [lexemes_append_blank front wide, lexemes_trimStart]

/-- The lexemes of a text make up the text without its blanks. -/
theorem flatten_lexemes (text : List Char) : (lexemes text).flatten = Text.withoutBlanks text := by
  -- This holds of any runs that are each blank throughout or without blanks.
  have general : ∀ runs : List (List Char),
      (∀ run ∈ runs, (!run.all Text.isBlank) = true → Text.Solid run) →
      (runs.filter fun run => !run.all Text.isBlank).flatten = Text.withoutBlanks runs.flatten := by
    intro runs uniform
    induction runs with
    | nil => rfl
    | cons run others ih =>
      obtain ⟨first, others⟩ := List.forall_mem_cons.mp uniform
      rw [List.flatten_cons, Text.withoutBlanks_append, ← ih others, List.filter_cons]
      split
      · rename_i solid
        rw [List.flatten_cons, (first solid).withoutBlanks]
      · rename_i blank
        rw [Text.withoutBlanks_blank (by simpa using blank), List.nil_append]
  have whole := general (text.splitBy fun a b => kindOf a == kindOf b) fun run found solid =>
    (solid_of_mem_lexemes (List.mem_filter.mpr ⟨found, solid⟩)).2
  rwa [List.flatten_splitBy] at whole

/-- A text that is not blank has lexemes. -/
theorem lexemes_ne_nil {text : List Char} (some : Text.withoutBlanks text ≠ []) : lexemes text ≠ [] := by
  -- Without lexemes nothing but blanks would be in the text.
  intro none
  rw [← flatten_lexemes, none] at some
  exact some rfl

/-- The character of a lexeme is one of the text. -/
theorem mem_of_mem_lexemes {text run : List Char} (member : run ∈ lexemes text) {c : Char}
    (here : c ∈ run) : c ∈ text := by
  -- A lexeme is one of the runs that the text is cut into.
  have found := (List.mem_filter.mp member).1
  rw [← List.flatten_splitBy (fun a b => kindOf a == kindOf b) text]
  exact List.mem_flatten_of_mem found here

/-- Whether a text is a lexeme depends only on the kinds of its characters. -/
theorem lexemes_of_kinds {word token : List Char} (kinds : token.map kindOf = word.map kindOf)
    (single : lexemes word = [word]) : lexemes token = [token] := by
  have member : word ∈ lexemes word := single ▸ List.mem_singleton_self word
  obtain ⟨found, solid⟩ := List.mem_filter.mp member
  have some : token ≠ [] := by
    rw [Ne, ← List.map_eq_nil_iff (f := kindOf), kinds, List.map_eq_nil_iff]
    exact List.ne_nil_of_mem_splitBy found
  -- One kind goes through the word, and so through the token.
  have chain : token.IsChain fun a b => (kindOf a == kindOf b) = true := by
    rw [← List.isChain_map (R := fun a b => (a == b) = true) kindOf, kinds, List.isChain_map]
    exact List.isChain_of_mem_splitBy found
  -- Whether a text is blank is a matter of kinds, too.
  have blank : ∀ text : List Char, text.all Text.isBlank = (text.map kindOf).all (· == .blank) := by
    intro text
    rw [Bool.eq_iff_iff]
    simp
  rw [blank, ← kinds, ← blank] at solid
  rw [lexemes, List.splitBy_of_isChain some chain, List.filter_singleton, solid]
  rfl

end Predicate

end Decksmith
