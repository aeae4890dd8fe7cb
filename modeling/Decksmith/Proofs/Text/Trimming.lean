import Decksmith.Text.Blank
import Mathlib.Data.List.TakeWhile

/-! Trimming: what it takes off a text is blank, and blanks at the ends of a text do not matter to it. -/

namespace Decksmith.Text

/-- A text begins with what trimming takes off its start, and that is blank. -/
theorem exists_trimStart (text : List Char) :
    ∃ front, front.all isBlank = true ∧ text = front ++ trimStart text :=
  ⟨text.takeWhile isBlank, List.all_takeWhile, List.takeWhile_append_dropWhile.symm⟩

/-- A text ends with what trimming takes off its end, and that is blank. -/
theorem exists_trimEnd (text : List Char) :
    ∃ back, back.all isBlank = true ∧ text = trimEnd text ++ back := by
  -- The end is trimmed like a start, on the reversed text.
  obtain ⟨front, blank, parts⟩ := exists_trimStart text.reverse
  refine ⟨front.reverse, by rwa [List.all_reverse], ?_⟩
  rw [trimEnd, ← List.reverse_append]
  exact (List.reverse_eq_iff.mp parts)

/-- A text without the blanks at its start does not start with a blank. -/
theorem not_isBlank_of_head?_trimStart {text : List Char} :
    ∀ c ∈ (trimStart text).head?, isBlank c = false := by
  -- Dropping goes on until a character is no blank.
  intro c first
  have kept := List.head?_dropWhile_not isBlank text
  rw [trimStart, Option.mem_def] at first
  rwa [first] at kept

/-- A text without the blanks at its end does not end with a blank. -/
theorem not_isBlank_of_getLast?_trimEnd {text : List Char} :
    ∀ c ∈ (trimEnd text).getLast?, isBlank c = false := by
  -- The end of a text is the start of the reversed one.
  intro c last
  rw [trimEnd, List.getLast?_reverse] at last
  exact not_isBlank_of_head?_trimStart c last

/-- Blanks in front of a text are trimmed with those at its start. -/
theorem trimStart_append {front : List Char} (blank : front.all isBlank = true) (text : List Char) :
    trimStart (front ++ text) = trimStart text :=
  List.dropWhile_append_of_pos (List.all_eq_true.mp blank)

/-- Blanks behind a text are trimmed with those at its end. -/
theorem trimEnd_append {back : List Char} (blank : back.all isBlank = true) (text : List Char) :
    trimEnd (text ++ back) = trimEnd text := by
  -- Reversed, the blanks behind the text stand in front of it.
  have reversed : back.reverse.all isBlank = true := by rwa [List.all_reverse]
  rw [trimEnd, List.reverse_append]
  exact congrArg List.reverse (trimStart_append reversed text.reverse)

/-- Blanks in front of a text do not change what trimming leaves. -/
theorem trim_append_left {front : List Char} (blank : front.all isBlank = true) (text : List Char) :
    trim (front ++ text) = trim text := by
  rw [trim, trimStart_append blank, trim]

/-- Blanks behind a text do not change what trimming leaves. -/
theorem trim_append_right {back : List Char} (blank : back.all isBlank = true) (text : List Char) :
    trim (text ++ back) = trim text := by
  have all : trimStart back = [] := List.dropWhile_eq_nil_iff.mpr (List.all_eq_true.mp blank)
  have parts : trimStart (text ++ back) = trimStart text ++ back ∨
      trimStart (text ++ back) = [] ∧ trimStart text = [] := by
    rw [trimStart, trimStart, List.dropWhile_append]
    split
    · rename_i none
      exact .inr ⟨all, List.isEmpty_iff.mp none⟩
    · exact .inl rfl
  -- Behind a text that is blank throughout, the blanks are taken off from the start already.
  rcases parts with kept | ⟨none, nothing⟩
  · rw [trim, kept, trimEnd_append blank, trim]
  · rw [trim, none, trim, nothing]

/-- A text without any blanks is its trimmed text. -/
theorem trim_of_not_blank {text : List Char} (none : ∀ c ∈ text, isBlank c = false) : trim text = text := by
  -- Nothing is dropped, neither from the text nor from its reverse.
  have kept : ∀ {text : List Char}, (∀ c ∈ text, isBlank c = false) →
      text.dropWhile isBlank = text := by
    intro text none
    refine List.dropWhile_eq_self_iff.mpr fun inside => ?_
    rw [none _ (List.getElem_mem inside)]
    exact Bool.false_ne_true
  have reversed : ∀ c ∈ text.reverse, isBlank c = false :=
    fun c member => none c (List.mem_reverse.mp member)
  rw [trim, trimStart, kept none, trimEnd, kept reversed, List.reverse_reverse]

/-- Trimming once is enough. -/
theorem trim_trim (text : List Char) : trim (trim text) = trim text := by
  obtain ⟨front, before, parts⟩ := exists_trimStart text
  obtain ⟨back, behind, rest⟩ := exists_trimEnd (trimStart text)
  -- The text is its trimmed text with blanks at both ends.
  have whole : text = front ++ (trim text ++ back) := by
    rw [trim, ← rest]
    exact parts
  calc trim (trim text) = trim (front ++ (trim text ++ back)) := by
        rw [trim_append_left before, trim_append_right behind]
    _ = trim text := by rw [← whole]

/-- Trimming leaves nothing of a text just when the text is blank. -/
theorem trim_eq_nil_iff {text : List Char} : trim text = [] ↔ text.all isBlank = true := by
  constructor
  -- Both trimmed parts are blank, and together they are the whole text.
  · intro none
    obtain ⟨front, before, parts⟩ := exists_trimStart text
    obtain ⟨back, behind, rest⟩ := exists_trimEnd (trimStart text)
    rw [show trimEnd (trimStart text) = [] from none, List.nil_append] at rest
    rw [parts, rest, List.all_append, before, behind, Bool.and_self]
  · intro blank
    have none := trim_append_right blank []
    exact none

end Decksmith.Text
