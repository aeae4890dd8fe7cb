import Decksmith.Proofs.Query.Vocabulary

/-! Reading the text of a predicate: its first lexemes are the words for the field, the modifier and the relation,
and all the others make up the value. -/

namespace Decksmith

namespace Predicate

open Vocabulary

/-- Blanks around the text of a predicate do not change how it is read, nor the fault that is found. -/
theorem ofChars_trim (text : List Char) : ofChars (Text.trim text) = ofChars text := by
  -- Reading looks at the lexemes alone, and at the trimmed text in what it reports.
  have same : lexemes (Text.trim text) = lexemes text := by
    rw [Text.trim, lexemes_trimEnd, lexemes_trimStart]
  unfold ofChars
  rw [same, Text.trim_trim]

/-- The words in front of the value of a predicate: one for the field, one for the modifier if there is one, and
one for the relation. -/
inductive Worded (p : Predicate) : List (List Char) → Prop where
  | plain {field relation : List Char} (named : Names fieldAliases field p.key)
      (unmodified : p.modifier = .none) (related : Names relationSymbols relation p.relation) :
      Worded p [field, relation]
  | modified {field modifier relation : List Char} (named : Names fieldAliases field p.key)
      (modified : Names modifierWords modifier p.modifier)
      (related : Names relationSymbols relation p.relation) : Worded p [field, modifier, relation]

/-- The words of a predicate are single lexemes. -/
theorem Worded.single {p : Predicate} {words : List (List Char)} (worded : p.Worded words) :
    ∀ word ∈ words, lexemes word = [word] := by
  -- Every word is the word of a table, and the words of the tables are single lexemes.
  cases worded with
  | plain named _ related =>
    simpa using ⟨named.lexemes unambiguous_fieldAliases, related.lexemes unambiguous_relationSymbols⟩
  | modified named modified related =>
    simpa using ⟨named.lexemes unambiguous_fieldAliases, modified.lexemes unambiguous_modifierWords,
      related.lexemes unambiguous_relationSymbols⟩

/-- A comparison is read if its relation is known, and its literal is what the lexemes make together. -/
theorem ofComparison_eq_ok_iff {key : FieldKey} {modifier : Modifier} {relation : List Char}
    {runs : List (List Char)} {p : Predicate} (solid : Text.Solid runs.flatten) :
    ofComparison key modifier relation runs = .ok p ↔
      p.key = key ∧ p.modifier = modifier ∧ relation? relation = some p.relation ∧
        p.value.toList = runs.flatten := by
  obtain ⟨field, amount, sign, value⟩ := p
  cases known : relation? relation with
  | none => simp [ofComparison, known]
  | some meant =>
    -- The text of the value is made of the lexemes, which have no blanks to trim.
    have text : String.ofList runs.flatten = value ↔ value.toList = runs.flatten := by
      rw [String.ext_iff, String.toList_ofList, eq_comm]
    simp only [ofComparison, known, trimmed, solid.trim, Except.ok.injEq, mk.injEq, text,
      Option.some.injEq]
    rw [eq_comm (a := field), eq_comm (a := amount)]

/-- The field of a predicate is known by its word. -/
theorem field?_eq_some_iff {token : List Char} (solid : Text.Solid token) {key : FieldKey} :
    field? token = some key ↔ Names fieldAliases token key :=
  meaning?_eq_some_iff unambiguous_fieldAliases solid

/-- So is its modifier. -/
theorem modifier?_eq_some_iff {token : List Char} (solid : Text.Solid token) {modifier : Modifier} :
    modifier? token = some modifier ↔ Names modifierWords token modifier :=
  meaning?_eq_some_iff unambiguous_modifierWords solid

/-- So is its relation. -/
theorem relation?_eq_some_iff {token : List Char} (solid : Text.Solid token) {relation : Relation} :
    relation? token = some relation ↔ Names relationSymbols token relation :=
  meaning?_eq_some_iff unambiguous_relationSymbols solid

/-- The lexemes behind the words of a predicate make up a text without blanks. -/
theorem solid_flatten_lexemes {segment : List Char} (words : List (List Char)) {runs : List (List Char)}
    (found : lexemes segment = words ++ runs) : Text.Solid runs.flatten := by
  intro c member
  obtain ⟨run, inside, here⟩ := List.mem_flatten.mp member
  exact (solid_of_mem_lexemes (found ▸ List.mem_append_right words inside)).2 c here

/-- If a text is read as a predicate, its first lexemes are words of that predicate, and the others, of which
there is at least one, make up the value. -/
theorem exists_worded {segment : List Char} {p : Predicate} (read : ofChars segment = .ok p) :
    ∃ words runs, p.Worded words ∧ lexemes segment = words ++ runs ∧ runs ≠ [] ∧
      p.value.toList = runs.flatten := by
  have solid : ∀ run ∈ lexemes segment, Text.Solid run := fun run member => (solid_of_mem_lexemes member).2
  unfold ofChars at read
  dsimp only at read
  split at read
  · rename_i field second third others found
    rw [found] at solid
    cases known : field? field with
    | none => simp [known] at read
    | some key =>
      have named := (field?_eq_some_iff (solid field (by simp))).mp known
      simp only [known] at read
      -- The second lexeme is the relation, unless it is a modifier.
      cases meant : modifier? second with
      | none =>
        simp only [meant] at read
        obtain ⟨rfl, unmodified, sign, value⟩ :=
          (ofComparison_eq_ok_iff (solid_flatten_lexemes [field, second] found)).mp read
        have related := (relation?_eq_some_iff (solid second (by simp))).mp sign
        exact ⟨[field, second], third :: others, .plain named unmodified related, found, by simp, value⟩
      | some modifier =>
        simp only [meant] at read
        cases others with
        | nil => cases read
        | cons fourth others =>
          obtain ⟨rfl, rfl, sign, value⟩ :=
            (ofComparison_eq_ok_iff (solid_flatten_lexemes [field, second, third] found)).mp read
          have modified := (modifier?_eq_some_iff (solid second (by simp))).mp meant
          have related := (relation?_eq_some_iff (solid third (by simp))).mp sign
          exact ⟨[field, second, third], fourth :: others, .modified named modified related, found,
            by simp, value⟩
  -- Fewer than three lexemes are no predicate.
  · cases read

/-- Conversely, such a text is read as that predicate. -/
theorem Worded.ofChars {p : Predicate} {words runs : List (List Char)} (worded : p.Worded words)
    {segment : List Char} (found : lexemes segment = words ++ runs) (some : runs ≠ [])
    (value : p.value.toList = runs.flatten) : ofChars segment = .ok p := by
  have solid : ∀ run ∈ lexemes segment, Text.Solid run := fun run member => (solid_of_mem_lexemes member).2
  have rest := solid_flatten_lexemes words found
  obtain ⟨first, others, rfl⟩ := List.exists_cons_of_ne_nil some
  rw [found] at solid
  unfold Predicate.ofChars
  rw [found]
  cases worded with
  | @plain field relation named unmodified related =>
    have known := (field?_eq_some_iff (solid field (by simp))).mpr named
    have sign := (relation?_eq_some_iff (solid relation (by simp))).mpr related
    -- No relation is taken for a modifier, so the value starts behind it.
    simp only [List.cons_append, List.nil_append, known, related.modifier?_eq_none]
    exact (ofComparison_eq_ok_iff rest).mpr ⟨rfl, unmodified, sign, value⟩
  | @modified field modifier relation named modified related =>
    have known := (field?_eq_some_iff (solid field (by simp))).mpr named
    have meant := (modifier?_eq_some_iff (solid modifier (by simp))).mpr modified
    have sign := (relation?_eq_some_iff (solid relation (by simp))).mpr related
    simp only [List.cons_append, List.nil_append, known, meant]
    exact (ofComparison_eq_ok_iff rest).mpr ⟨rfl, rfl, sign, value⟩

/-- A value that is read has characters, all from the text, and none of them is a blank. -/
theorem value_of_ofChars {text : List Char} {p : Predicate} (read : ofChars text = .ok p) :
    p.value ≠ "" ∧ Text.Solid p.value.toList ∧ p.value.toList ⊆ text := by
  obtain ⟨words, runs, -, found, some, value⟩ := exists_worded read
  have within : runs ⊆ lexemes text := by simp [found]
  refine ⟨fun none => ?_, fun c member => ?_, fun c member => ?_⟩
  · -- A value has at least one lexeme, and that one has characters.
    obtain ⟨run, member⟩ := List.exists_mem_of_ne_nil runs some
    have none : runs.flatten = [] := by rw [← value, none, String.toList_empty]
    exact (solid_of_mem_lexemes (within member)).1 (List.flatten_eq_nil_iff.mp none run member)
  · rw [value] at member
    obtain ⟨run, found, here⟩ := List.mem_flatten.mp member
    exact (solid_of_mem_lexemes (within found)).2 c here
  -- All characters of the value stand in the text.
  · rw [value] at member
    obtain ⟨run, found, here⟩ := List.mem_flatten.mp member
    exact mem_of_mem_lexemes (within found) here

/-- Words with one or more blanks behind each, and then the rest of the text. -/
inductive Spaced (rest : List Char) : List (List Char) → List Char → Prop where
  | done : Spaced rest [] rest
  | word {word gap text : List Char} {words : List (List Char)} (some : gap ≠ [])
      (blank : gap.all Text.isBlank = true) (behind : Spaced rest words text) :
      Spaced rest (word :: words) (word ++ (gap ++ text))

/-- Words that are single lexemes are the first lexemes of a text in which blanks follow them. -/
theorem Spaced.lexemes {rest text : List Char} {words : List (List Char)} (spaced : Spaced rest words text)
    (single : ∀ word ∈ words, lexemes word = [word]) : lexemes text = words ++ lexemes rest := by
  -- Word by word, the gap behind keeps a word apart from what follows.
  induction spaced with
  | done => rfl
  | @word word _ _ _ some blank _ ih =>
    obtain ⟨first, others⟩ := List.forall_mem_cons.mp single
    rw [lexemes_gap word some blank, first, ih others]
    rfl

/-- A text that consists of words of a predicate and its value is read as that predicate, however many blanks there
are behind the words and within the value. -/
theorem ofChars_spaced {p : Predicate} {words : List (List Char)} (worded : p.Worded words)
    (filled : p.value ≠ "") {written text : List Char}
    (value : Text.withoutBlanks written = p.value.toList) (spaced : Spaced written words text) :
    ofChars text = .ok p := by
  have some : Text.withoutBlanks written ≠ [] := by rw [value]; simpa using filled
  refine worded.ofChars (spaced.lexemes worded.single) (lexemes_ne_nil some) ?_
  rw [flatten_lexemes, value]

/-- A single blank is enough. -/
theorem Spaced.space {rest text : List Char} {words : List (List Char)} (word : List Char)
    (behind : Spaced rest words text) : Spaced rest (word :: words) (word ++ ' ' :: text) :=
  .word (List.cons_ne_nil ' ' []) rfl behind

/-- The canonical text of a predicate is read as that predicate, if the value has no blanks and is not
empty. -/
theorem ofChars_render (p : Predicate) (filled : p.value ≠ "")
    (solid : Text.Solid p.value.toList) : ofChars p.render.toList = .ok p := by
  obtain ⟨key, modifier, relation, value⟩ := p
  -- The value ends the text, behind the symbol of the relation and a blank.
  have behind : Spaced value.toList [(symbol relation).toList]
      ((symbol relation).toList ++ ' ' :: value.toList) := .space _ .done
  cases modifier with
  | none =>
    have text : (render ⟨key, .none, relation, value⟩).toList =
        (aliasOf key).toList ++ ' ' :: ((symbol relation).toList ++ ' ' :: value.toList) := by
      simp [render, show modifierWord? .none = none by decide]
    have worded : Worded ⟨key, .none, relation, value⟩ [(aliasOf key).toList, (symbol relation).toList] :=
      .plain (names_aliasOf key) rfl (names_symbol relation)
    rw [text]
    exact ofChars_spaced worded filled solid.withoutBlanks (.space _ behind)
  | count =>
    have word : modifierWord? .count = some "count" := by decide
    have text : (render ⟨key, .count, relation, value⟩).toList =
        (aliasOf key).toList ++ ' ' :: ("count".toList ++ ' ' ::
          ((symbol relation).toList ++ ' ' :: value.toList)) := by
      simp [render, word]
      rfl
    have worded : Worded ⟨key, .count, relation, value⟩
        [(aliasOf key).toList, "count".toList, (symbol relation).toList] :=
      .modified (names_aliasOf key) (names_of_word? word) (names_symbol relation)
    rw [text]
    exact ofChars_spaced worded filled solid.withoutBlanks (.space _ (.space _ behind))

/-- A text that is read as a predicate consists, but for its blanks, of words of the predicate and its value, which
has characters and no blanks; and every text of words of a predicate and such a value is read as that predicate,
wherever there are blanks behind the words and within the value. -/
theorem ofChars_worded :
    (∀ (segment : List Char) (p : Predicate), ofChars segment = .ok p →
      (∃ words, p.Worded words ∧ Text.withoutBlanks segment = words.flatten ++ p.value.toList) ∧
        p.value ≠ "" ∧ Text.Solid p.value.toList) ∧
    ∀ (p : Predicate) (words : List (List Char)) (written segment : List Char), p.Worded words →
      p.value ≠ "" → Text.Solid p.value.toList → Text.withoutBlanks written = p.value.toList →
      Spaced written words segment → ofChars segment = .ok p := by
  constructor
  -- Without its blanks a text is what its lexemes make together.
  · intro segment p read
    obtain ⟨filled, solid, -⟩ := value_of_ofChars read
    obtain ⟨words, runs, worded, found, -, value⟩ := exists_worded read
    refine ⟨⟨words, worded, ?_⟩, filled, solid⟩
    rw [← flatten_lexemes, found, List.flatten_append, value]
  · intro p words written segment worded filled _ value spaced
    exact ofChars_spaced worded filled value spaced

/-- A converted mana cost of ten at least, counted. -/
def counted : Predicate := ⟨.cmc, .count, .order .greaterOrEqual, "10"⟩

/-- The words of this predicate in other cases, with several blanks between them and one within the value. -/
theorem ofChars_worded_counted :
    ofChars "CMC  Count\t>= 1 0".toList = .ok counted ∧
      (∃ words, counted.Worded words ∧
        Text.withoutBlanks "CMC  Count\t>= 1 0".toList = words.flatten ++ counted.value.toList) ∧
      counted.value ≠ "" ∧ Text.Solid counted.value.toList := by
  have worded : counted.Worded ["CMC".toList, "Count".toList, ">=".toList] :=
    .modified ⟨"cmc", by decide +kernel, by decide⟩ ⟨"count", by decide, by decide⟩
      ⟨">=", by decide, by decide⟩
  -- Behind each word the text has its own kind of gap.
  have spaced : Spaced "1 0".toList ["CMC".toList, "Count".toList, ">=".toList]
      ("CMC".toList ++ ([' ', ' '] ++ ("Count".toList ++ (['\t'] ++
        (">=".toList ++ ([' '] ++ "1 0".toList)))))) :=
    .word (by decide) (by decide) (.word (by decide) (by decide) (.word (by decide) (by decide) .done))
  have read : ofChars "CMC  Count\t>= 1 0".toList = .ok counted :=
    ofChars_worded.2 counted _ _ _ worded (by decide) (by decide) (by decide) spaced
  exact ⟨read, ofChars_worded.1 _ _ read⟩

end Predicate

end Decksmith
