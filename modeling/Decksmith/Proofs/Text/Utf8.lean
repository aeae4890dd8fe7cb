/-! The bytes of characters: a character with a single byte shares it with no other one. -/

namespace Decksmith.Text

/-- The bytes of some characters. -/
def utf8 (text : List Char) : List UInt8 :=
  text.flatMap String.utf8EncodeChar

theorem utf8_append (front back : List Char) : utf8 (front ++ back) = utf8 front ++ utf8 back :=
  List.flatMap_append

/-- The bytes of a text are those of its characters. -/
theorem toList_toByteArray (text : String) : text.toByteArray.data.toList = utf8 text.toList := by
  -- A text is encoded character by character.
  conv =>
    lhs
    rw [← String.ofList_toList (s := text)]
  rw [String.toByteArray_ofList, List.utf8Encode, List.toList_data_toByteArray, utf8]

/-- Some characters have as many bytes as the text that they form. -/
theorem length_utf8 (text : List Char) : (utf8 text).length = (String.ofList text).utf8ByteSize := by
  rw [← String.size_toByteArray, ← ByteArray.size_data, ← Array.length_toList, toList_toByteArray,
    String.toList_ofList]

/-- The byte of a character that has a single one is its number. -/
theorem toNat_toUInt8 {c : Char} (short : c.utf8Size = 1) : c.toUInt8.toNat = c.toNat := by
  rw [Char.utf8Size_eq_one_iff, UInt32.le_iff_toNat_le] at short
  exact Nat.mod_eq_of_lt (Nat.lt_of_le_of_lt short (by decide))

/-- Characters with a single byte are known from it. -/
theorem toUInt8_inj {c other : Char} (short : c.utf8Size = 1) (also : other.utf8Size = 1) :
    c.toUInt8 = other.toUInt8 ↔ c = other := by
  rw [← UInt8.toNat_inj, toNat_toUInt8 short, toNat_toUInt8 also, Char.toNat_inj]

/-- A single byte leaves the first bit free. -/
theorem toUInt8_lt {c : Char} (short : c.utf8Size = 1) : c.toUInt8 < 0x80 := by
  -- Characters of one byte are those of ASCII.
  rw [UInt8.lt_iff_toNat_lt, toNat_toUInt8 short]
  rw [Char.utf8Size_eq_one_iff, UInt32.le_iff_toNat_le] at short
  exact Nat.lt_succ_of_le short

/-- Where a character takes several bytes, each of them has its first bit set. -/
theorem le_of_mem_utf8EncodeChar {c : Char} (long : c.utf8Size ≠ 1) :
    ∀ byte ∈ String.utf8EncodeChar c, 0x80 ≤ byte := by
  -- The bit is part of the mark that is put on every byte, whatever the other bits are.
  have marked : ∀ bits mark : UInt8, 0x80 ≤ mark → 0x80 ≤ bits ||| mark := by
    intro bits mark set
    rw [UInt8.le_iff_toNat_le] at set ⊢
    rw [UInt8.toNat_or]
    exact Nat.le_trans set Nat.right_le_or
  rcases c.utf8Size_eq with one | two | three | four
  · exact absurd one long
  · rw [String.utf8EncodeChar_eq_cons_cons two]
    simp [marked]
  · rw [String.utf8EncodeChar_eq_cons_cons_cons three]
    simp [marked]
  · rw [String.utf8EncodeChar_eq_cons_cons_cons_cons four]
    simp [marked]

/-- The bytes of a text start with that of a short character just when the text starts with the character. -/
theorem head?_utf8 (c : Char) (short : c.utf8Size = 1) (text : List Char) :
    (utf8 text).head? = some c.toUInt8 ↔ text.head? = some c := by
  cases text with
  | nil => simp [utf8]
  | cons first rest =>
    by_cases also : first.utf8Size = 1
    · simp [utf8, String.utf8EncodeChar_eq_singleton also, toUInt8_inj also short]
    · -- Neither the first character is the short one, nor is its first byte.
      have differs : first ≠ c := fun same => also (same ▸ short)
      refine iff_of_false (fun starts => ?_) (by simpa using differs)
      obtain ⟨byte, others, bytes⟩ :=
        List.exists_cons_of_ne_nil (String.utf8EncodeChar_ne_nil (c := first))
      obtain rfl : byte = c.toUInt8 := by simpa [utf8, bytes] using starts
      -- Characters of several bytes have none of a short one among them.
      have large := le_of_mem_utf8EncodeChar also c.toUInt8 (by simp [bytes])
      exact absurd (toUInt8_lt short) (UInt8.not_lt.mpr large)

end Decksmith.Text
