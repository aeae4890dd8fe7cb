import Decksmith.Card.Printed
import Decksmith.Proofs.Text.Words

/-! The words of a type line: those in front of the first dash are its types, those between the first dash and the
second its subtypes, and those behind the second dash are neither. -/

namespace Decksmith

namespace TypeLine

/-- The words of a part of a type line: what blanks leave of it, but for the empty parts. -/
def partWords (part : List Char) : List String :=
  ((part.splitOnP Text.isBlank).filter (· ≠ [])).map String.ofList

/-- The words of a type line for each of the parts that its dashes leave. -/
def parts (line : String) : List (List String) :=
  (line.toList.splitOn dash).map partWords

/-- The first part ends in front of the first dash. -/
theorem exists_splitOn_dash (line : List Char) : ∃ others, line.splitOn dash = head line :: others := by
  by_cases dashed : dash ∈ line
  -- The head takes the characters up to the dash, and splitting cuts there.
  · obtain ⟨front, back, rfl, apart⟩ := List.eq_append_cons_of_mem dashed
    refine ⟨back.splitOn dash, ?_⟩
    rw [List.splitOn_append_cons_self_of_not_mem apart, head, List.takeWhile_append_of_pos]
    · simp
    · intro c member
      simpa using ne_of_mem_of_not_mem member apart
  · refine ⟨[], ?_⟩
    rw [List.splitOn_eq_singleton dashed, head, List.takeWhile_eq_self_iff.mpr]
    intro c member
    simpa using ne_of_mem_of_not_mem member dashed

/-- The types are the words of the first part. -/
theorem types_eq (line : String) : types line = (parts line).headD [] := by
  -- Words are what blanks split the first part into.
  obtain ⟨others, found⟩ := exists_splitOn_dash line.toList
  rw [parts, found, types, Text.words_eq_splitOnP]
  rfl

/-- The subtypes are the words of the second part. A line without a dash has no second part and no subtypes. -/
theorem subtypes_eq (line : String) : subtypes line = (parts line).tail.headD [] := by
  have words : subtypes line = partWords (tail line.toList) := by
    rw [subtypes, Text.words_eq_splitOnP, partWords]
  rw [words, parts]
  by_cases dashed : dash ∈ line.toList
  · obtain ⟨front, back, whole, apart⟩ := List.eq_append_cons_of_mem dashed
    obtain ⟨others, found⟩ := exists_splitOn_dash back
    -- Behind the first dash the second part is the first one.
    have second : tail line.toList = head back := by
      have passed : ∀ c ∈ front, decide (c ≠ dash) = true := fun c member => by
        simpa using ne_of_mem_of_not_mem member apart
      rw [tail, head, whole, List.dropWhile_append_of_pos passed]
      simp
    rw [second, whole, List.splitOn_append_cons_self_of_not_mem apart, found]
    rfl
  · have none : tail line.toList = [] := by
      have passed : ∀ c ∈ line.toList, decide (c ≠ dash) = true := fun c member => by
        simpa using ne_of_mem_of_not_mem member dashed
      rw [tail, List.dropWhile_eq_nil_iff.mpr passed]
      rfl
    rw [none, List.splitOn_eq_singleton dashed]
    rfl

end TypeLine

namespace Card

/-- The types of a card are the words of its type line in front of the first dash, and the subtypes are those between
the first dash and the second. Queries see these lists. Together they have all words of the line exactly when there
are none behind the second dash. -/
theorem typeWords_split (card : Card) :
    card.types = (TypeLine.parts card.typeLine).headD [] ∧
    card.subtypes = (TypeLine.parts card.typeLine).tail.headD [] ∧
    card.toRecord.field .types = .list card.types ∧
    card.toRecord.field .subTypes = .list card.subtypes ∧
    (card.types ++ card.subtypes = (TypeLine.parts card.typeLine).flatten ↔
      ∀ words ∈ (TypeLine.parts card.typeLine).drop 2, words = []) := by
  have first : card.types = (TypeLine.parts card.typeLine).headD [] := TypeLine.types_eq card.typeLine
  have second : card.subtypes = (TypeLine.parts card.typeLine).tail.headD [] :=
    TypeLine.subtypes_eq card.typeLine
  refine ⟨first, second, rfl, rfl, ?_⟩
  rw [first, second]
  -- Types and subtypes are the first two parts, so what is missing are the words of all others.
  match TypeLine.parts card.typeLine with
  | [] => simp
  | [front] => simp
  | front :: back :: others => simp [List.flatten_eq_nil_iff]

/-- A card with two faces, which has a dash in the type line of each. -/
def doubleFaced : Card :=
  usual ⟨1⟩ "Ranger" "Creature — Human // Creature — Wolf"

/-- The last word of its type line stands behind a dash, but it is no subtype, and no type either. -/
theorem typeWords_doubleFaced :
    "Wolf" ∈ (TypeLine.parts doubleFaced.typeLine).tail.flatten ∧
      "Wolf" ∉ doubleFaced.subtypes ∧ "Wolf" ∉ doubleFaced.types := by
  decide +kernel

end Card

end Decksmith
