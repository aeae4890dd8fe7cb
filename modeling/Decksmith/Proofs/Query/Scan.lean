import Decksmith.Query.Tree
import Mathlib.Data.List.Basic
import Mathlib.Data.List.Induction

/-! The fault of a text is the first one that a scan of its structural tokens comes to. The scan remembers
only how many brackets are open and whether an operand or an operator is due. -/

namespace Decksmith

/-- What has to stand next in a query. -/
inductive Due where
  | operand
  | operator
deriving DecidableEq, Repr

/-- What a scan remembers of the tokens that it has read. -/
structure Scan where
  /-- The number of open brackets. -/
  depth : Nat
  due : Due
deriving DecidableEq, Repr

namespace Scan

/-- Before the first token no bracket is open, and an operand is due. -/
def start : Scan := ⟨0, .operand⟩

/-- A text may end when no bracket is open and its last operand is complete. -/
def finished : Scan := ⟨0, .operator⟩

/-- Reads the token at a position, or tells what is wrong with it. -/
def read (scan : Scan) (position : Nat) (token : Token) : Except SyntaxError Scan :=
  match scan.due, token with
  | .operand, .expression text => (Predicate.ofChars text).map fun _ => ⟨scan.depth, .operator⟩
  | .operand, .opening => .ok ⟨scan.depth + 1, .operand⟩
  | .operand, _ => .error (.missingOperand position)
  | .operator, .and => .ok ⟨scan.depth, .operand⟩
  | .operator, .or => .ok ⟨scan.depth, .operand⟩
  | .operator, .closing =>
    if 0 < scan.depth then .ok ⟨scan.depth - 1, .operator⟩ else .error .unbalancedBrackets
  | .operator, _ => .error (.missingOperator position)

/-- The tokens that a scan reads from the start, with what it remembers of them. -/
inductive Passes : List Token → Scan → Prop where
  | start : Passes [] start
  | read {front : List Token} {token : Token} {scan next : Scan} (passed : Passes front scan)
      (reads : scan.read front.length token = .ok next) : Passes (front ++ [token]) next

/-- Tokens after which nothing is due are not none. -/
theorem Passes.ne_nil {tokens : List Token} (passed : Passes tokens finished) : tokens ≠ [] := by
  -- Before the first token an operand is due, so the scan is not finished.
  generalize same : finished = scan at passed
  cases passed with
  | start => cases same
  | read _ _ => simp

/-- The fault that a scan finds in some tokens: there are none, the scan stops at one of them, or it passes
all of them and something is still due or open. -/
inductive Finds : List Token → SyntaxError → Prop where
  | empty : Finds [] .emptyQuery
  | stop {front rest : List Token} {token : Token} {scan : Scan} {fault : SyntaxError}
      (passed : Passes front scan) (refused : scan.read front.length token = .error fault) :
      Finds (front ++ token :: rest) fault
  | ending {front : List Token} {last : Token} {scan : Scan}
      (passed : Passes (front ++ [last]) scan) (unfinished : scan ≠ finished) :
      Finds (front ++ [last])
        (if last = .opening ∨ scan.due = .operator then .unbalancedBrackets
          else .missingOperand (front.length + 1))

/-- A scan finds a fault in every list of tokens that it does not finish. -/
theorem finishes_or_finds (tokens : List Token) :
    Passes tokens finished ∨ ∃ fault, Finds tokens fault := by
  -- The tokens are taken in one by one at their end, as the scan reads them.
  have scanned : (∃ scan, Passes tokens scan) ∨ ∃ front token rest scan fault,
      tokens = front ++ token :: rest ∧ Passes front scan ∧
        scan.read front.length token = .error fault := by
    induction tokens using List.reverseRecOn with
    | nil => exact .inl ⟨start, .start⟩
    | append_singleton front token ih =>
      rcases ih with ⟨scan, passed⟩ | ⟨front, stopped, rest, scan, fault, rfl, passed, refused⟩
      · cases reads : scan.read front.length token with
        | ok next => exact .inl ⟨next, passed.read reads⟩
        | error fault => exact .inr ⟨front, token, [], scan, fault, rfl, passed, reads⟩
      · -- A scan that has stopped does not go on behind a further token.
        exact .inr ⟨front, stopped, rest ++ [token], scan, fault, by simp, passed, refused⟩
  rcases scanned with ⟨scan, passed⟩ | ⟨front, token, rest, scan, fault, rfl, passed, refused⟩
  -- A scan that has passed all tokens may still lack an operand or a closing bracket.
  · by_cases complete : scan = finished
    · exact .inl (complete ▸ passed)
    · rcases List.eq_nil_or_concat' tokens with rfl | ⟨front, last, rfl⟩
      · exact .inr ⟨_, .empty⟩
      · exact .inr ⟨_, .ending passed complete⟩
  · exact .inr ⟨fault, .stop passed refused⟩

end Scan

namespace Query

/-- Reads on with what is due. -/
def resume (due : Due) (enclosing : List Frame) (frame : Frame) (position : Nat) (after : Bool)
    (tokens : List Token) : Except SyntaxError Query :=
  match due with
  | .operand => readOperand enclosing frame position after tokens
  | .operator => readOperator enclosing frame position tokens

variable {due : Due} {enclosing : List Frame} {frame : Frame} {position : Nat} {after : Bool}

/-- Where the scan stops, reading fails with the same fault. -/
theorem resume_of_refused {token : Token} {fault : SyntaxError}
    (refused : (⟨enclosing.length, due⟩ : Scan).read position token = .error fault)
    (rest : List Token) :
    resume due enclosing frame position after (token :: rest) = .error fault := by
  cases due with
  | operand =>
    cases token with
    | expression text =>
      -- The fault is that of the predicate.
      cases found : Predicate.ofChars text with
      | ok predicate => simp [Scan.read, found, Except.map] at refused
      | error other =>
        simp only [Scan.read, found, Except.map, Except.error.injEq] at refused
        simp only [resume, readOperand, found, refused]
    | opening => simp [Scan.read] at refused
    | closing => simpa [Scan.read, resume, readOperand] using refused
    | and => simpa [Scan.read, resume, readOperand] using refused
    | or => simpa [Scan.read, resume, readOperand] using refused
  | operator =>
    cases token with
    | closing =>
      -- A closing bracket is refused only outside of all brackets, where no frame encloses this one.
      cases enclosing with
      | nil => simpa [Scan.read, resume, readOperator] using refused
      | cons outer others => simp [Scan.read] at refused
    | and => simp [Scan.read] at refused
    | or => simp [Scan.read] at refused
    | opening => simpa [Scan.read, resume, readOperator] using refused
    | expression text => simpa [Scan.read, resume, readOperator] using refused

/-- Where the scan goes on, reading goes on, with a frame for each open bracket. -/
theorem resume_of_read {token : Token} {next : Scan}
    (reads : (⟨enclosing.length, due⟩ : Scan).read position token = .ok next) :
    ∃ (outer : List Frame) (inner : Frame), outer.length = next.depth ∧ ∀ rest,
      resume due enclosing frame position after (token :: rest) =
        resume next.due outer inner (position + 1) (token = .opening) rest := by
  cases due with
  | operand =>
    cases token with
    | expression text =>
      cases found : Predicate.ofChars text with
      | ok predicate =>
        simp only [Scan.read, found, Except.map, Except.ok.injEq] at reads
        subst reads
        -- The predicate becomes a factor of the present frame.
        refine ⟨enclosing, frame.addFactor (test predicate), rfl, fun rest => ?_⟩
        simp [resume, readOperand, found]
      | error fault => simp [Scan.read, found, Except.map] at reads
    | opening =>
      obtain rfl : ⟨enclosing.length + 1, .operand⟩ = next := by simpa [Scan.read] using reads
      -- The present frame waits outside, and a new one takes its place.
      exact ⟨frame :: enclosing, .empty, rfl, fun rest => by simp [resume, readOperand]⟩
    | closing => simp [Scan.read] at reads
    | and => simp [Scan.read] at reads
    | or => simp [Scan.read] at reads
  | operator =>
    cases token with
    | closing =>
      cases enclosing with
      | nil => simp [Scan.read] at reads
      | cons outer others =>
        obtain rfl : ⟨others.length, .operator⟩ = next := by simpa [Scan.read] using reads
        -- The frame that has waited takes what the brackets enclose.
        exact ⟨others, outer.addFactor frame.close, rfl, fun rest => by simp [resume, readOperator]⟩
    | and =>
      obtain rfl : ⟨enclosing.length, .operand⟩ = next := by simpa [Scan.read] using reads
      exact ⟨enclosing, frame, rfl, fun rest => by simp [resume, readOperator]⟩
    | or =>
      obtain rfl : ⟨enclosing.length, .operand⟩ = next := by simpa [Scan.read] using reads
      exact ⟨enclosing, frame.nextAlternative, rfl, fun rest => by simp [resume, readOperator]⟩
    | opening => simp [Scan.read] at reads
    | expression text => simp [Scan.read] at reads

/-- Reading gets as far as the scan does, and finds the same due and as many brackets open. -/
theorem readOperand_of_passes {front : List Token} {scan : Scan} (passed : Scan.Passes front scan) :
    ∃ (enclosing : List Frame) (frame : Frame), enclosing.length = scan.depth ∧ ∀ rest,
      readOperand [] .empty 0 false (front ++ rest) =
        resume scan.due enclosing frame front.length (front.getLast? = some .opening) rest := by
  -- The induction is on the tokens that have been passed, with one step of reading for each of them.
  induction passed with
  | start => exact ⟨[], .empty, rfl, fun rest => by simp [Scan.start, resume]⟩
  | @read front token scan next passed reads ih =>
    obtain ⟨enclosing, frame, deep, before⟩ := ih
    have reads : (⟨enclosing.length, scan.due⟩ : Scan).read front.length token = .ok next := by
      rwa [deep]
    obtain ⟨outer, inner, opened, step⟩ := resume_of_read reads
    refine ⟨outer, inner, opened, fun rest => ?_⟩
    rw [List.append_assoc, List.singleton_append, before, step]
    simp

/-- Where there are tokens, reading starts with an operand. -/
theorem ofTokens_of_ne_nil {tokens : List Token} (some : tokens ≠ []) :
    ofTokens tokens = readOperand [] .empty 0 false tokens := by
  cases tokens with
  | nil => exact absurd rfl some
  | cons token rest => rfl

/-- Tokens that a scan finishes form a query. -/
theorem ofTokens_of_finished {tokens : List Token} (passed : Scan.Passes tokens .finished) :
    ∃ query, ofTokens tokens = .ok query := by
  obtain ⟨enclosing, frame, deep, before⟩ := readOperand_of_passes passed
  -- No bracket is open, so no frame waits outside, and the last one is closed.
  obtain rfl : enclosing = [] := List.length_eq_zero_iff.mp deep
  have closed := before []
  rw [List.append_nil] at closed
  exact ⟨frame.close, (ofTokens_of_ne_nil passed.ne_nil).trans closed⟩

/-- Reading fails with the fault that a scan finds. -/
theorem ofTokens_of_finds {tokens : List Token} {fault : SyntaxError}
    (finds : Scan.Finds tokens fault) : ofTokens tokens = .error fault := by
  cases finds with
  | empty => rfl
  | @stop front rest token scan fault passed refused =>
    obtain ⟨enclosing, frame, deep, before⟩ := readOperand_of_passes passed
    have refused : (⟨enclosing.length, scan.due⟩ : Scan).read front.length token = .error fault := by
      rwa [deep]
    rw [ofTokens_of_ne_nil (by simp), before]
    exact resume_of_refused refused rest
  | @ending front last scan passed unfinished =>
    obtain ⟨enclosing, frame, deep, before⟩ := readOperand_of_passes passed
    have ended := before []
    rw [List.append_nil] at ended
    rw [ofTokens_of_ne_nil (by simp), ended]
    obtain ⟨depth, due⟩ := scan
    cases due with
    | operand =>
      -- Behind an opening bracket the bracket is at fault, and not the operand that is due.
      by_cases opened : last = .opening
      · simp [resume, readOperand, opened]
      · simp [resume, readOperand, opened]
    | operator =>
      -- Nothing but an open bracket is left to be at fault.
      cases enclosing with
      | nil =>
        obtain rfl : depth = 0 := deep.symm
        exact absurd rfl unfinished
      | cons outer others => simp [resume, readOperator]

end Query

namespace QueryTree

/-- Parsing fails exactly with the fault that a scan of the structural tokens finds, which is the first one
from the left. -/
theorem parse_error_iff_finds (text : String) (fault : SyntaxError) :
    parse text = .error fault ↔ Scan.Finds (Token.split text.toList) fault := by
  -- Laying out a query as a tree adds no fault.
  have layout : parse text = .error fault ↔
      Query.ofTokens (Token.split text.toList) = .error fault := by
    unfold parse Query.parse
    cases Query.ofTokens (Token.split text.toList) <;> simp [Except.map]
  rw [layout]
  refine ⟨fun failed => ?_, Query.ofTokens_of_finds⟩
  rcases Scan.finishes_or_finds (Token.split text.toList) with passed | ⟨found, finds⟩
  · obtain ⟨query, read⟩ := Query.ofTokens_of_finished passed
    rw [read] at failed
    cases failed
  · -- Both faults are the outcome of the same reading.
    have same := Query.ofTokens_of_finds finds
    rw [failed] at same
    cases same
    exact finds

/-- The operator that is missing comes before the bracket that is one too many. -/
example : parse "name = a [cmc = 1]]" = .error (.missingOperator 1) := by rfl

end QueryTree

end Decksmith
