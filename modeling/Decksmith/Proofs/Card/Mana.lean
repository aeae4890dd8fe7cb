import Decksmith.Card.Printed
import Decksmith.Proofs.Text.Words
import Mathlib.Data.List.Count

/-! Mana costs that are written symbol by symbol are read symbol by symbol. -/

namespace Decksmith

namespace Mana

/-- A symbol in its braces. -/
def braced (symbol : List Char) : List Char :=
  '{' :: (symbol ++ ['}'])

/-- The text of a mana cost: its symbols in their braces, one after the other. -/
def written (symbols : List String) : String :=
  String.join (symbols.map fun symbol => "\x7b" ++ symbol ++ "\x7d")

/-- A symbol that has no braces of its own. -/
def Braceless (symbol : List Char) : Prop :=
  '{' ∉ symbol ∧ '}' ∉ symbol

/-- Character by character, a cost consists of braced symbols. -/
theorem toList_written (symbols : List String) :
    (written symbols).toList = (symbols.map String.toList).flatMap braced := by
  -- Each symbol stands in braces of its own.
  rw [written, String.toList_join, List.flatMap_map, List.flatMap_map]
  refine List.flatMap_congr fun symbol _ => ?_
  simp [braced]

/-- Opening braces split a cost into its symbols, each with its closing brace. -/
theorem splitOn_flatMap_braced {front : List Char} {symbols : List (List Char)} (apart : '{' ∉ front)
    (plain : ∀ symbol ∈ symbols, Braceless symbol) :
    (front ++ symbols.flatMap braced).splitOn '{' = front :: symbols.map (· ++ ['}']) := by
  -- The part in front of the next opening brace ends with the closing one of the symbol before.
  induction symbols generalizing front with
  | nil => simp [List.splitOn_eq_singleton apart]
  | cons symbol others ih =>
    obtain ⟨here, later⟩ := List.forall_mem_cons.mp plain
    have next : '{' ∉ symbol ++ ['}'] := by simpa using here.1
    rw [List.flatMap_cons, braced, List.cons_append,
      List.splitOn_append_cons_self_of_not_mem apart, ih next later, List.map_cons]

/-- What stands in front of a closing brace is the symbol. -/
theorem beforeClosing?_append {symbol : List Char} (plain : Braceless symbol) :
    beforeClosing? (symbol ++ ['}']) = some symbol := by
  -- Nothing in the symbol is a closing brace.
  have inside : ∀ c ∈ symbol, decide (c ≠ '}') = true := fun c member => by
    simpa using ne_of_mem_of_not_mem member plain.2
  rw [beforeClosing?, if_pos (by simp), List.takeWhile_append_of_pos inside]
  simp

/-- The symbols of a cost are found again in its text. -/
theorem filterMap_beforeClosing? {symbols : List (List Char)}
    (plain : ∀ symbol ∈ symbols, Braceless symbol) :
    (Text.pieces '{' (symbols.flatMap braced)).filterMap beforeClosing? = symbols := by
  have split : (symbols.flatMap braced).splitOn '{' = [] :: symbols.map (· ++ ['}']) :=
    splitOn_flatMap_braced List.not_mem_nil plain
  -- In front of the first brace there is nothing, and so no symbol.
  rw [Text.pieces_eq_splitOn, split, List.filterMap_cons_none rfl, List.filterMap_map]
  calc symbols.filterMap (beforeClosing? ∘ (· ++ ['}']))
      = symbols.filterMap some :=
        List.filterMap_congr fun symbol member => beforeClosing?_append (plain symbol member)
    _ = symbols := List.filterMap_some

/-- A symbol of which the first character is not in a text does not start there. -/
theorem occurrences_append {opening : Char} {name front : List Char} (apart : opening ∉ front)
    (rest : List Char) :
    occurrences (opening :: name) (front ++ rest) = occurrences (opening :: name) rest := by
  -- At no character of the front does the symbol start.
  induction front with
  | nil => rfl
  | cons c others ih =>
    obtain ⟨differs, later⟩ := not_or.mp (mt List.mem_cons.mpr apart)
    rw [List.cons_append, occurrences, ih later]
    simp [differs]

/-- How often a search finds a symbol if it goes on behind every place where it has found one. -/
def findings (symbol : List Char) : List Char → Nat
  | [] => 0
  | c :: rest =>
    if symbol.isPrefixOf (c :: rest) then findings symbol (rest.drop (symbol.length - 1)) + 1
    else findings symbol rest
termination_by text => text.length

/-- Such a search misses no occurrence of a symbol in which the first character does not come again. -/
theorem occurrences_eq_findings {opening : Char} {name : List Char} (apart : opening ∉ name)
    (text : List Char) : occurrences (opening :: name) text = findings (opening :: name) text := by
  fun_induction findings (opening :: name) text with
  | case1 => rfl
  -- Where the symbol is found, no further occurrence starts within it.
  | case2 c rest found ih =>
    obtain ⟨later, parts⟩ := List.isPrefixOf_iff_prefix.mp found
    obtain ⟨rfl, rfl⟩ : opening = c ∧ name ++ later = rest := by simpa using parts
    rw [← ih, occurrences, if_pos found, occurrences_append apart, Nat.add_comm]
    simp
  | case3 c rest missing ih => rw [← ih, occurrences, if_neg missing, Nat.zero_add]

/-- The count of a color's symbol is what such a search finds. -/
theorem symbolCount_eq_findings (cost : String) (color : Color) :
    symbolCount cost color = findings color.symbol.toList cost.toList := by
  rw [symbolCount, Color.symbol, String.toList_ofList]
  exact occurrences_eq_findings (by cases color <;> decide) cost.toList

/-- A color's symbol starts at the brace of a symbol that is its letter, and at no other. -/
theorem isPrefixOf_braced (color : Color) {symbol : List Char} (plain : Braceless symbol)
    (rest : List Char) :
    color.symbol.toList.isPrefixOf (braced symbol ++ rest) = true ↔ symbol = [color.letter] := by
  have letter : color.letter ≠ '}' := by cases color <;> decide
  rw [List.isPrefixOf_iff_prefix, Color.symbol, String.toList_ofList, braced, List.cons_append,
    List.append_assoc, List.cons_prefix_cons]
  match symbol with
  | [] => simp [List.cons_prefix_cons, letter]
  | [c] => simp [List.cons_prefix_cons, eq_comm]
  | c :: d :: others =>
    -- A longer symbol has another character where the brace would have to be.
    have differs : d ≠ '}' := fun same => plain.2 (by simp [same])
    simp [List.cons_prefix_cons, differs.symm]

/-- Every symbol that is the letter of a color counts once for that color. -/
theorem occurrences_flatMap_braced (color : Color) {symbols : List (List Char)}
    (plain : ∀ symbol ∈ symbols, Braceless symbol) :
    occurrences color.symbol.toList (symbols.flatMap braced) = symbols.count [color.letter] := by
  induction symbols with
  | nil => rfl
  | cons symbol others ih =>
    obtain ⟨here, later⟩ := List.forall_mem_cons.mp plain
    -- At an opening brace the color is there if the symbol is its letter, and nowhere else in the symbol.
    have starts := isPrefixOf_braced color here (others.flatMap braced)
    have opens : '{' ∉ symbol ++ ['}'] := by simpa using here.1
    have behind : occurrences color.symbol.toList ((symbol ++ ['}']) ++ others.flatMap braced) =
        occurrences color.symbol.toList (others.flatMap braced) := by
      rw [Color.symbol, String.toList_ofList]
      exact occurrences_append opens _
    rw [List.flatMap_cons, List.count_cons, ← ih later, ← behind, Nat.add_comm, braced,
      List.cons_append, occurrences]
    rw [braced, List.cons_append] at starts
    simp only [starts, beq_iff_eq]

end Mana

/-- A mana cost is read symbol by symbol. Every color counts the symbols that are its letter, and the generic
symbol is the first one that is not empty and consists of digits only. -/
theorem Card.symbols_read (card : Card) {symbols : List String}
    (plain : ∀ symbol ∈ symbols, Mana.Braceless symbol.toList)
    (cost : card.manaCost = some (Mana.written symbols)) :
    (∀ color : Color, card.symbolCount? color = some (symbols.count color.letter.toString)) ∧
      card.genericMana? =
        symbols.find? fun symbol => symbol ≠ "" ∧ symbol.toList.all Char.isDigit = true := by
  have plain : ∀ symbol ∈ symbols.map String.toList, Mana.Braceless symbol := by simpa using plain
  constructor
  · intro color
    rw [Card.symbolCount?, cost, Option.map_some, Mana.symbolCount, Mana.toList_written,
      Mana.occurrences_flatMap_braced color plain]
    have letter : color.letter.toString.toList = [color.letter] := by simp
    rw [← letter, List.count_map_of_injective _ _ fun _ _ => String.toList_injective]
  · rw [Card.genericMana?, cost, Option.bind_some, Mana.generic?, Mana.toList_written]
    rw [Mana.filterMap_beforeClosing? plain, List.find?_map, Option.map_map]
    -- The symbols come as lists of characters, and the one that is found is put together again.
    have filled : ∀ symbol : String, symbol.toList ≠ [] ↔ symbol ≠ "" := by simp
    simp only [Function.comp_def, String.ofList_toList, Option.map_id', filled]

/-- Symbols of which one is a hybrid, one is empty and one has two digits. -/
def hybridSymbols : List String := ["X", "2/R", "", "12", "R", "R"]

/-- A card that costs these symbols. -/
def hybrid : Card :=
  ({} : Card).withManaCost (Mana.written hybridSymbols) 16.0

/-- The hybrid counts neither as red nor as generic, and the generic symbol is read as a whole. -/
theorem Card.symbols_read_hybrid :
    (∀ symbol ∈ hybridSymbols, Mana.Braceless symbol.toList) ∧
      hybrid.manaCost = some (Mana.written hybridSymbols) ∧
      hybrid.symbolCount? .red = some 2 ∧ hybrid.genericMana? = some "12" := by
  -- None of the symbols has a brace in it.
  have plain : ∀ symbol ∈ hybridSymbols, Mana.Braceless symbol.toList := by
    simp [hybridSymbols, Mana.Braceless]
  have cost : hybrid.manaCost = some (Mana.written hybridSymbols) := rfl
  obtain ⟨counted, generic⟩ := symbols_read hybrid plain cost
  refine ⟨plain, cost, (counted .red).trans ?_, generic.trans ?_⟩
  · decide
  · decide

end Decksmith
