import Decksmith.Proofs.Query.Lexemes

/-! The words of the query language: each is a single lexeme and stands for one value, whatever the case of its
ASCII letters. -/

namespace Decksmith

/-- The list of all field keys is complete. -/
theorem FieldKey.mem_all (key : FieldKey) : key ∈ all := by
  -- Legality is a key for each format, and any other key stands in the list by itself.
  cases key with
  | legal format => cases format <;> decide
  | _ => decide

namespace Predicate

/-- A letter is of the same kind in both cases. -/
theorem kindOf_toLower (c : Char) : kindOf c.toLower = kindOf c := by
  by_cases ascii : c.toNat < 0x80
  -- The ASCII characters are few enough to look at each of them.
  · have general : ∀ code < 0x80, kindOf (Char.ofNat code).toLower = kindOf (Char.ofNat code) := by
      decide +kernel
    simpa using general c.toNat ascii
  · -- No other character has a lower case in ASCII.
    have upper : ¬ (c.val ≥ 'A'.val ∧ c.val ≤ 'Z'.val) := by
      rintro ⟨-, most⟩
      exact ascii (Nat.lt_of_le_of_lt most (by decide))
    have same : c.toLower = c := dif_neg upper
    rw [same]

/-- Texts that differ in the case of ASCII letters have characters of the same kinds. -/
theorem map_kindOf_eq {word token : List Char} (same : Text.sameIgnoringAsciiCase word token = true) :
    token.map kindOf = word.map kindOf := by
  -- Lowering a text changes no kind, and both texts have one lowered form.
  have lower : ∀ text : List Char, text.map kindOf = (text.map Char.toLower).map kindOf := by
    intro text
    simp [kindOf_toLower]
  rw [lower token, lower word, beq_iff_eq.mp same]

end Predicate

namespace Vocabulary

variable {α : Type} {table : List (String × α)} {token : List Char} {value : α}

/-- A token names a value if it is one of the words for it, whatever the case of its ASCII letters. -/
def Names (table : List (String × α)) (token : List Char) (value : α) : Prop :=
  ∃ word, (word, value) ∈ table ∧ Text.sameIgnoringAsciiCase word.toList token = true

/-- A table of words that are single lexemes and stand for one value each. -/
structure Unambiguous (table : List (String × α)) : Prop where
  single : ∀ entry ∈ table, Predicate.lexemes entry.1.toList = [entry.1.toList]
  meant : ∀ entry ∈ table, meaning? table entry.1.toList = some entry.2

/-- The aliases of fields are unambiguous. -/
theorem unambiguous_fieldAliases : Unambiguous fieldAliases :=
  ⟨by decide +kernel, by decide +kernel⟩

/-- The symbols of relations are unambiguous. -/
theorem unambiguous_relationSymbols : Unambiguous relationSymbols :=
  ⟨by decide +kernel, by decide +kernel⟩

/-- The words of modifiers are unambiguous. -/
theorem unambiguous_modifierWords : Unambiguous modifierWords :=
  ⟨by decide +kernel, by decide +kernel⟩

/-- A token that names a value is a single lexeme, as the word is. -/
theorem Names.lexemes (names : Names table token value) (unambiguous : Unambiguous table) :
    Predicate.lexemes token = [token] := by
  obtain ⟨word, entry, same⟩ := names
  exact Predicate.lexemes_of_kinds (Predicate.map_kindOf_eq same) (unambiguous.single _ entry)

/-- So it has no blanks. -/
theorem Names.solid (names : Names table token value) (unambiguous : Unambiguous table) :
    Text.Solid token := by
  -- A lexeme has no blanks, and the token is one.
  have member : token ∈ Predicate.lexemes token := by simp [names.lexemes unambiguous]
  exact (Predicate.solid_of_mem_lexemes member).2

/-- Tokens that differ in the case of ASCII letters have one meaning. -/
theorem meaning?_congr {word : List Char} (same : Text.sameIgnoringAsciiCase word token = true)
    (solid : Text.Solid word) (solid' : Text.Solid token) (table : List (String × α)) :
    meaning? table token = meaning? table word := by
  -- The search compares lowered words, and trims what has no blanks to trim.
  unfold meaning? Text.sameIgnoringAsciiCase
  rw [solid.trim, solid'.trim, beq_iff_eq.mp same]

/-- The meaning of a token without blanks is the value that it names. -/
theorem meaning?_eq_some_iff (unambiguous : Unambiguous table) (solid : Text.Solid token) :
    meaning? table token = some value ↔ Names table token value := by
  constructor
  · intro meant
    obtain ⟨entry, found, rfl⟩ := Option.map_eq_some_iff.mp meant
    have same := List.find?_some found
    rw [solid.trim] at same
    exact ⟨entry.1, List.mem_of_find?_eq_some found, same⟩
  · rintro ⟨word, entry, same⟩
    have known : Names table word.toList value := ⟨word, entry, beq_self_eq_true _⟩
    -- The first word that fits need not be this one, but it has the same meaning.
    rw [meaning?_congr same (known.solid unambiguous) solid, unambiguous.meant _ entry]

/-- No token that names a relation is taken for a modifier. -/
theorem Names.modifier?_eq_none {relation : Relation} (names : Names relationSymbols token relation) :
    modifier? token = none := by
  have solid := names.solid unambiguous_relationSymbols
  obtain ⟨symbol, entry, same⟩ := names
  have known : Names relationSymbols symbol.toList relation := ⟨symbol, entry, beq_self_eq_true _⟩
  -- No symbol of a relation is a word of a modifier, in whatever case.
  have general : ∀ entry ∈ relationSymbols, modifier? entry.1.toList = none := by decide +kernel
  calc modifier? token = modifier? symbol.toList :=
        meaning?_congr same (known.solid unambiguous_relationSymbols) solid modifierWords
    _ = none := general (symbol, relation) entry

/-- The canonical word for a value names it. -/
theorem names_of_word? [DecidableEq α] {word : String} (canonical : word? table value = some word) :
    Names table word.toList value := by
  -- The canonical word is the first one of the table for its value.
  obtain ⟨entry, found, rfl⟩ := Option.map_eq_some_iff.mp canonical
  have same : entry.2 = value := by simpa using List.find?_some found
  exact ⟨entry.1, same ▸ List.mem_of_find?_eq_some found, beq_self_eq_true _⟩

/-- The canonical alias of a field names that field. -/
theorem names_aliasOf (key : FieldKey) : Names fieldAliases (aliasOf key).toList key := by
  have general : ∀ key ∈ FieldKey.all, word? fieldAliases key = some (aliasOf key) := by decide +kernel
  exact names_of_word? (general key key.mem_all)

/-- The symbol of a relation names that relation. -/
theorem names_symbol (relation : Relation) : Names relationSymbols (symbol relation).toList relation := by
  -- Every relation has a symbol in the table.
  refine names_of_word? ?_
  cases relation with
  | order order => cases order <;> decide
  | _ => decide

end Vocabulary

end Decksmith
