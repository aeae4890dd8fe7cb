import Decksmith.Text.Blank
import Mathlib.Data.List.SplitBy
import Mathlib.Data.List.TakeWhile

/-! Words and pieces of a text: both are what splitting a list leaves, with or without the empty parts. -/

namespace Decksmith.Text

/-- The pieces of a text are the parts that the separator leaves. -/
theorem pieces_eq_splitOn (separator : Char) (text : List Char) :
    pieces separator text = text.splitOn separator := by
  -- Both go through the text and cut at the separator, so the induction is on the text.
  induction text with
  | nil => rfl
  | cons c rest ih =>
    rw [pieces, List.splitOn_cons_eq_if_modifyHead, ih]
    obtain ⟨piece, others, found⟩ := List.exists_cons_of_ne_nil (List.splitOn_ne_nil separator rest)
    by_cases same : c = separator
    · simp [same]
    · simp [same, found]

/-- A text begins with a run of blanks or with a run of other characters, and ends there or goes on with
a character of the other kind. -/
theorem exists_run (c : Char) (rest : List Char) :
    ∃ run later, c :: rest = run ++ later ∧ run ≠ [] ∧ (∀ d ∈ run, isBlank d = isBlank c) ∧
      ∀ d ∈ later.head?, isBlank d = !isBlank c := by
  let like := fun d => isBlank d == isBlank c
  -- The run goes as far as characters are of the kind of the first one.
  refine ⟨(c :: rest).takeWhile like, (c :: rest).dropWhile like,
    List.takeWhile_append_dropWhile.symm, ?_, fun d member => ?_, fun d first => ?_⟩
  · simp [like]
  · simpa [like] using List.mem_takeWhile_imp member
  · -- The run ends at the first character of the other kind.
    have stopped := List.head?_dropWhile_not like (c :: rest)
    rw [Option.mem_def.mp first] at stopped
    exact Bool.eq_not.mpr (by simpa [like] using stopped)

/-- A run is a word of its own, unless it is blank. -/
theorem words_run {run : List Char} {kind : Bool} (some : run ≠ [])
    (uniform : ∀ c ∈ run, isBlank c = kind) : words run = if kind then [] else [run] := by
  -- A run of one kind is not split.
  have single : (run.splitBy fun a b => isBlank a == isBlank b) = [run] := by
    refine List.splitBy_of_isChain some (List.Pairwise.isChain ?_)
    refine List.pairwise_of_forall_mem_list fun a first b second => ?_
    simp [uniform a first, uniform b second]
  obtain ⟨first, others, rfl⟩ := List.exists_cons_of_ne_nil some
  have all : (first :: others).all isBlank = kind := by
    cases kind with
    | true => exact List.all_eq_true.mpr uniform
    | false => simp [uniform first (by simp)]
  rw [words, single, List.filter_singleton, all]
  cases kind <;> rfl

/-- Blanks in front of a text add nothing but empty parts. -/
theorem filter_splitOnP_blank {gap : List Char} (blank : ∀ c ∈ gap, isBlank c = true)
    (text : List Char) : ((gap ++ text).splitOnP isBlank).filter (· ≠ []) =
      (text.splitOnP isBlank).filter (· ≠ []) := by
  -- Each blank cuts off an empty part, which the filter drops.
  induction gap with
  | nil => rfl
  | cons c others ih =>
    obtain ⟨here, later⟩ := List.forall_mem_cons.mp blank
    rw [List.cons_append, List.splitOnP_cons_eq_if_modifyHead, if_pos here,
      List.filter_cons_of_neg (by simp), ih later]

/-- The words of a text are the parts that blanks leave, but for the empty ones. -/
theorem words_eq_splitOnP (text : List Char) :
    words text = (text.splitOnP isBlank).filter (· ≠ []) := by
  match text with
  | [] => rfl
  | c :: rest =>
    -- One run is taken off at a time, and what is left of the text is shorter.
    obtain ⟨run, later, whole, some, uniform, apart⟩ := exists_run c rest
    have shorter : later.length < (c :: rest).length := by
      rw [whole, List.length_append]
      have := List.length_pos_iff.mpr some
      omega
    have further := words_eq_splitOnP later
    have broken : words (run ++ later) = words run ++ words later := by
      unfold words
      rw [List.splitBy_append, List.filter_append]
      intro a last b first
      rw [uniform a (List.mem_of_getLast? last), apart b first]
      simp
    rw [whole, broken, words_run some uniform, further]
    cases kind : isBlank c with
    | true =>
      rw [kind] at uniform
      exact (filter_splitOnP_blank uniform later).symm
    | false =>
      rw [kind] at uniform apart
      cases later with
      | nil => simp [List.splitOnP_eq_singleton uniform, some]
      | cons d more =>
        have blank : isBlank d = true := by simpa using apart d
        -- The blank behind the word leaves an empty part in front of it, which does not count.
        have empty := filter_splitOnP_blank (List.forall_mem_singleton.mpr blank) more
        rw [List.singleton_append] at empty
        rw [List.splitOnP_append_cons_of_forall_mem uniform d blank, empty]
        simp [some]
termination_by text.length
decreasing_by exact shorter

end Decksmith.Text
