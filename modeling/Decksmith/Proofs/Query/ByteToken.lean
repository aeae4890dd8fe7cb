import Decksmith.Proofs.Query.Spans
import Decksmith.Proofs.Text.Utf8
import Decksmith.Query.ByteToken

/-! Splitting a text in its bytes: it is cut between characters only, into its spans and the brackets and operators
between them, of which the blank spans are dropped. -/

namespace Decksmith

/-- Where a part of a text can be cut out, both offsets are between characters. -/
theorem Text.isValid_of_slice? {text : String} {start stop : Nat} {part : List Char}
    (cut : slice? text start stop = some part) :
    (⟨start⟩ : String.Pos.Raw).IsValid text ∧ (⟨stop⟩ : String.Pos.Raw).IsValid text := by
  -- There is a position for an offset only where the offset is valid.
  have valid : ∀ {offset : Nat} {pos : text.Pos}, text.pos? ⟨offset⟩ = some pos →
      (⟨offset⟩ : String.Pos.Raw).IsValid text := by
    intro offset pos found
    by_contra invalid
    have outside : String.Pos.Raw.isValidForSlice text.toSlice ⟨offset⟩ ≠ true := fun within =>
      invalid (String.Pos.Raw.isValidForSlice_eq_true_iff.mp within).ofSlice
    simp [String.pos?, String.Slice.pos?, outside] at found
  obtain ⟨first, found, cut⟩ := Option.bind_eq_some_iff.mp cut
  obtain ⟨last, also, -⟩ := Option.bind_eq_some_iff.mp cut
  exact ⟨valid found, valid also⟩

/-- A part of a text is cut out between the numbers of bytes in front of it and up to its end. -/
theorem Text.slice?_eq {text : String} {front span back : List Char}
    (whole : text.toList = front ++ (span ++ back)) :
    slice? text (utf8 front).length (utf8 (front ++ span)).length = some span := by
  -- Where the text falls into two parts there is a position.
  have splits : ∀ front back : List Char, text.toList = front ++ back →
      ∃ pos, text.pos? ⟨(utf8 front).length⟩ = some pos ∧
        pos.Splits (String.ofList front) (String.ofList back) := by
    intro front back whole
    have same : text = String.ofList front ++ String.ofList back := by
      rw [← String.ofList_append, ← whole, String.ofList_toList]
    have place : (⟨(utf8 front).length⟩ : String.Pos.Raw) = (String.ofList front).rawEndPos := by
      rw [length_utf8]
      rfl
    have valid : (⟨(utf8 front).length⟩ : String.Pos.Raw).IsValid text :=
      String.Pos.Raw.isValid_iff_exists_append.mpr ⟨_, _, same, place⟩
    refine ⟨text.pos _ valid, ?_, same, place⟩
    unfold String.pos? String.Slice.pos?
    rw [dif_pos (String.Pos.Raw.isValidForSlice_eq_true_iff.mpr valid.toSlice)]
    rfl
  obtain ⟨first, start, before⟩ := splits _ _ whole
  obtain ⟨last, stop, behind⟩ := splits (front ++ span) back (by simpa using whole)
  rw [String.ofList_append] at before behind
  -- What is between the two positions is the part.
  obtain ⟨ordered, part⟩ := String.copy_slice_eq_iff_splits.mpr ⟨_, _, before, behind⟩
  unfold slice?
  rw [start, stop]
  simp only [bind, Option.bind]
  rw [dif_pos ordered, part, String.toList_ofList]

namespace ByteToken

/-- A byte that is no bracket and starts no operator is passed over. -/
theorem scanFrom_cons (start offset : Nat) {byte : UInt8} {rest : List UInt8} (opening : byte ≠ 0x5b)
    (closing : byte ≠ 0x5d) (both : ¬ (byte = 0x26 ∧ rest.head? = some 0x26))
    (either : ¬ (byte = 0x7c ∧ rest.head? = some 0x7c)) :
    scanFrom start offset (byte :: rest) = scanFrom start (offset + 1) rest := by
  rw [scanFrom]
  · exact opening
  · exact closing
  -- An operator would need the same byte once more.
  · rintro others rfl rfl
    exact both ⟨rfl, rfl⟩
  · rintro others rfl rfl
    exact either ⟨rfl, rfl⟩

/-- Bytes with their first bit set are passed over. -/
theorem scanFrom_long (start offset : Nat) {bytes : List UInt8} (long : ∀ byte ∈ bytes, 0x80 ≤ byte)
    (rest : List UInt8) :
    scanFrom start offset (bytes ++ rest) = scanFrom start (offset + bytes.length) rest := by
  induction bytes generalizing offset with
  | nil => rfl
  | cons byte others ih =>
    obtain ⟨large, later⟩ := List.forall_mem_cons.mp long
    -- Brackets and the halves of operators have their first bit free.
    have differs : ∀ small : UInt8, small < 0x80 → byte ≠ small := by
      rintro small below rfl
      exact absurd below (UInt8.not_lt.mpr large)
    rw [List.cons_append, scanFrom_cons start offset (differs 0x5b (by decide))
      (differs 0x5d (by decide)) (fun same => differs 0x26 (by decide) same.1)
      (fun same => differs 0x7c (by decide) same.1), ih (offset + 1) later, List.length_cons,
      Nat.add_assoc, Nat.add_comm 1]

/-- The bytes of a character that is no bracket and starts no operator are passed over, however many they are. -/
theorem scanFrom_char (start offset : Nat) {c : Char} {rest : List Char} (opening : c ≠ '[')
    (closing : c ≠ ']') (both : ¬ (c = '&' ∧ rest.head? = some '&'))
    (either : ¬ (c = '|' ∧ rest.head? = some '|')) :
    scanFrom start offset (Text.utf8 (c :: rest)) =
      scanFrom start (offset + c.utf8Size) (Text.utf8 rest) := by
  by_cases short : c.utf8Size = 1
  -- A single byte is that of a bracket or of half an operator only if the character is.
  · have bytes : Text.utf8 (c :: rest) = c.toUInt8 :: Text.utf8 rest := by
      simp [Text.utf8, String.utf8EncodeChar_eq_singleton short]
    have single : ∀ other : Char, other.utf8Size = 1 → c.toUInt8 = other.toUInt8 → c = other :=
      fun other also => (Text.toUInt8_inj short also).mp
    rw [bytes, short, scanFrom_cons]
    · exact fun same => opening (single '[' rfl same)
    · exact fun same => closing (single ']' rfl same)
    · rintro ⟨same, next⟩
      exact both ⟨single '&' rfl same, (Text.head?_utf8 '&' rfl rest).mp next⟩
    · rintro ⟨same, next⟩
      exact either ⟨single '|' rfl same, (Text.head?_utf8 '|' rfl rest).mp next⟩
  -- Of several bytes none is, whichever the character is.
  · have bytes : Text.utf8 (c :: rest) = String.utf8EncodeChar c ++ Text.utf8 rest := List.flatMap_cons
    rw [bytes, scanFrom_long start offset (Text.le_of_mem_utf8EncodeChar short),
      String.length_utf8EncodeChar]

/-- The bytes of a bracket or an operator complete the span in front of them. -/
theorem scanFrom_spelling {token : Token} (found : ∀ words, token ≠ .expression words)
    (start offset : Nat) (rest : List Char) :
    scanFrom start offset (Text.utf8 (token.spelling ++ rest)) =
      span start offset :: structural token ::
        scanFrom (offset + (Text.utf8 token.spelling).length)
          (offset + (Text.utf8 token.spelling).length) (Text.utf8 rest) := by
  cases token with
  | expression words => exact absurd rfl (found words)
  | _ => rfl

/-- What is read of a text from its bytes, behind some characters and those that its present span has so far. -/
def readFrom (text : String) (front words rest : List Char) : List (Option Token) :=
  (scanFrom (Text.utf8 front).length (Text.utf8 (front ++ words)).length (Text.utf8 rest)).map
    (read? text)

variable {text : String} {front words rest : List Char}

/-- A span is read as the characters between its offsets. -/
theorem read?_span (whole : text.toList = front ++ (words ++ rest)) :
    read? text (span (Text.utf8 front).length (Text.utf8 (front ++ words)).length) =
      some (.expression words) := by
  rw [read?, Text.slice?_eq whole, Option.map_some]

/-- At the end of a text its last span is read. -/
theorem readFrom_nil (whole : text.toList = front ++ words) :
    readFrom text front words [] = [some (.expression words)] := by
  have last : text.toList = front ++ (words ++ []) := by rw [List.append_nil, whole]
  exact congrArg ([·]) (read?_span last)

/-- A bracket or an operator is read behind the span that it completes, and then what follows it. -/
theorem readFrom_spelling {token : Token} (found : ∀ words, token ≠ .expression words)
    (whole : text.toList = front ++ (words ++ (token.spelling ++ rest))) :
    readFrom text front words (token.spelling ++ rest) =
      some (.expression words) :: some token ::
        readFrom text (front ++ words ++ token.spelling) [] rest := by
  -- The scan goes on at the number of bytes that have been read by then.
  have offset : (Text.utf8 (front ++ words)).length + (Text.utf8 token.spelling).length =
      (Text.utf8 (front ++ words ++ token.spelling)).length := by
    rw [← List.length_append, ← Text.utf8_append]
  unfold readFrom
  rw [scanFrom_spelling found, List.map_cons, List.map_cons, read?_span whole, offset, List.append_nil]
  rfl

/-- A character that is no bracket and starts no operator belongs to the span. -/
theorem readFrom_cons {c : Char} (opening : c ≠ '[') (closing : c ≠ ']')
    (both : ¬ (c = '&' ∧ rest.head? = some '&')) (either : ¬ (c = '|' ∧ rest.head? = some '|')) :
    readFrom text front words (c :: rest) = readFrom text front (words ++ [c]) rest := by
  -- The offset moves on by the bytes of the character.
  have offset : (Text.utf8 (front ++ words)).length + c.utf8Size =
      (Text.utf8 (front ++ (words ++ [c]))).length := by
    simp [Text.utf8, Nat.add_assoc]
  rw [readFrom, scanFrom_char _ _ opening closing both either, offset, readFrom]

/-- The bytes of a text give its spans, all of them, and the brackets and operators between them. -/
theorem readFrom_eq {span : List Char} (whole : text.toList = front ++ (span.reverse ++ rest)) :
    readFrom text front span.reverse rest = (Token.splitFullyAfter span rest).map some := by
  -- A bracket or an operator leaves the rest of the text, which follows what has been read already.
  have completed : ∀ (token : Token) {front span rest : List Char},
      (∀ words, token ≠ .expression words) →
      (∀ {front : List Char}, text.toList = front ++ rest →
        readFrom text front [] rest = (Token.splitFullyAfter [] rest).map some) →
      text.toList = front ++ (span.reverse ++ (token.spelling ++ rest)) →
      readFrom text front span.reverse (token.spelling ++ rest) =
        (.expression span.reverse :: token :: Token.splitFullyAfter [] rest).map some := by
    intro token front span rest found later whole
    rw [readFrom_spelling found whole, later (by simp [whole]), List.map_cons, List.map_cons]
  fun_induction Token.splitFullyAfter span rest generalizing front with
  | case1 span => exact readFrom_nil (by simpa using whole)
  | case2 span rest ih => exact completed .opening (by simp) ih whole
  | case3 span rest ih => exact completed .closing (by simp) ih whole
  | case4 span rest ih => exact completed .and (by simp) ih whole
  | case5 span rest ih => exact completed .or (by simp) ih whole
  | case6 span c rest opening closing both either ih =>
    -- The span has one character more, and its last offset is behind all bytes of that character.
    rw [readFrom_cons opening closing (Token.not_doubled both) (Token.not_doubled either),
      ← List.reverse_cons]
    exact ih (by simpa using whole)

/-- What is found in the bytes of a text, read one by one, are its spans and the tokens between them. -/
theorem map_read?_scan (text : String) :
    (scan text).map (read? text) = (Token.splitFully text.toList).map some := by
  -- At the start nothing has been read, neither of the text nor of its first span.
  have whole : text.toList = [] ++ (([] : List Char).reverse ++ text.toList) := rfl
  rw [scan, Text.toList_toByteArray]
  exact readFrom_eq whole

end ByteToken

/-- Splitting a text in its bytes cuts it between characters only, and gives plain spans that together with the
brackets and operators between them are the whole text. Splitting drops those of the spans that are blank and
nothing else, so its expressions are plain and not blank, and no two of them are side by side. -/
theorem Token.split_lossless (text : String) :
    (∀ start stop, .span start stop ∈ ByteToken.scan text →
      (⟨start⟩ : String.Pos.Raw).IsValid text ∧ (⟨stop⟩ : String.Pos.Raw).IsValid text) ∧
    (∃ pieces, (ByteToken.scan text).map (ByteToken.read? text) = pieces.map some ∧
      Divides pieces text.toList ∧ split text.toList = withoutBlanks pieces) ∧
    (∀ words, .expression words ∈ split text.toList →
      words.all Text.isBlank = false ∧ Plain words) ∧
    (split text.toList).IsChain Apart := by
  -- What is found in the bytes is what splitting finds among the characters, if no span is left out.
  have read := ByteToken.map_read?_scan text
  have divides : Divides (splitFully text.toList) text.toList := (unbroken_nil text.toList).divides
  have dropped : split text.toList = withoutBlanks (splitFully text.toList) :=
    (withoutBlanks_splitFullyAfter [] text.toList).symm
  refine ⟨?_, ⟨_, read, divides, dropped⟩, ?_, ?_⟩
  · intro start stop found
    -- Every span is read, so it can be cut out.
    have member := List.mem_map_of_mem (f := ByteToken.read? text) found
    rw [read, List.mem_map] at member
    obtain ⟨token, -, same⟩ := member
    obtain ⟨part, cut, -⟩ := Option.map_eq_some_iff.mp same.symm
    exact Text.isValid_of_slice? cut
  · intro words member
    -- An expression is a span that is not dropped.
    rw [dropped, withoutBlanks, List.mem_filter] at member
    exact ⟨by simpa [isBlank] using member.2, divides.plain words member.1⟩
  · rw [dropped]
    exact isChain_apart divides.adjoining

/-- A text with a character of two bytes, three ampersands in a row and nothing behind its last bracket. -/
def mixed : String := "é&&& [b]"

/-- The third ampersand belongs to a span, which is no longer than the bytes between its offsets, and the empty span
at the end is dropped. -/
theorem Token.split_lossless_mixed :
    .span 4 6 ∈ ByteToken.scan mixed ∧ (⟨4⟩ : String.Pos.Raw).IsValid mixed ∧
      Divides [.expression ['é'], .and, .expression ['&', ' '], .opening, .expression ['b'], .closing,
        .expression []] mixed.toList ∧
      split mixed.toList =
        [.expression ['é'], .and, .expression ['&', ' '], .opening, .expression ['b'], .closing] := by
  obtain ⟨offsets, ⟨pieces, read, divides, dropped⟩, -, -⟩ := split_lossless mixed
  have found : ByteToken.span 4 6 ∈ ByteToken.scan mixed := by decide
  -- The tokens are read at their offsets and cover the text without a gap.
  have parts : (ByteToken.scan mixed).map (ByteToken.read? mixed) =
      [Token.expression ['é'], .and, .expression ['&', ' '], .opening, .expression ['b'], .closing,
        .expression []].map some := by rfl
  obtain rfl := List.map_injective_iff.mpr (fun _ _ => Option.some.inj) (read.symm.trans parts)
  exact ⟨found, (offsets 4 6 found).1, divides, dropped⟩

end Decksmith
