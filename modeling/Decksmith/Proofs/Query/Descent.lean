import Decksmith.Query.Descent

/-! Reading from left to right, with a stack of frames, gives what reading by descent gives. -/

namespace Decksmith.Query

/-- Two steps give a result only if the first one does. -/
theorem exists_of_bind_eq_ok {ε α β : Type} {first : Except ε α} {next : α → Except ε β} {result : β}
    (done : first >>= next = .ok result) : ∃ read, first = .ok read ∧ next read = .ok result := by
  cases first with
  | error fault => cases done
  | ok read => exact ⟨read, rfl, done⟩

namespace Descent

variable {tokens : List Token} {operator : Token} {relation : SetRelation}
  {operand : Nat → Except SyntaxError (Query × Nat)}

/-- Whatever is read takes at least one token. -/
def Advances (operand : Nat → Except SyntaxError (Query × Nat)) : Prop :=
  ∀ position read, operand position = .ok read → position < read.2

/-- Further operands end no earlier than where they start, and if the bound allows for all tokens, no operator is
left behind them. -/
theorem others_ends (advances : Advances operand) {bound position : Nat} {read : List Query × Nat}
    (done : others tokens operator operand bound position = .ok read) :
    position ≤ read.2 ∧ (tokens.length ≤ position + bound → tokens[read.2]? ≠ some operator) := by
  -- The induction is on the bound: each operand takes a token, so the bound may fall with the tokens that are left.
  induction bound generalizing position read with
  | zero =>
    cases done
    refine ⟨Nat.le_refl _, fun enough found => ?_⟩
    have none : tokens[position]? = none := List.getElem?_eq_none enough
    cases none.symm.trans found
  | succ bound ih =>
    unfold others at done
    split at done
    · obtain ⟨next, first, done⟩ := exists_of_bind_eq_ok done
      obtain ⟨later, rest, done⟩ := exists_of_bind_eq_ok done
      cases done
      have here := advances _ _ first
      obtain ⟨there, stops⟩ := ih rest
      exact ⟨by omega, fun enough => stops (by omega)⟩
    · cases done
      exact ⟨Nat.le_refl _, fun _ => by assumption⟩

/-- A chain of operands takes tokens because its first operand does, and no operator is left behind it. -/
theorem chain_ends (advances : Advances operand) {position : Nat} {read : Query × Nat}
    (done : chain tokens operator relation operand position = .ok read) :
    position < read.2 ∧ tokens[read.2]? ≠ some operator := by
  -- The first operand moves the position, and the others do not move it back.
  obtain ⟨next, first, done⟩ := exists_of_bind_eq_ok done
  obtain ⟨later, rest, done⟩ := exists_of_bind_eq_ok done
  cases done
  obtain ⟨there, stops⟩ := others_ends advances rest
  exact ⟨Nat.lt_of_lt_of_le (advances _ _ first) there, stops (Nat.le_add_left _ _)⟩

/-- Whichever its depth, an atom takes tokens. -/
theorem atom_advances (tokens : List Token) (depth : Nat) : Advances (atom tokens depth) := by
  -- The induction is on the depth, which bounds how far brackets may be nested.
  induction depth with
  | zero =>
    intro position read done
    cases done
  | succ depth ih =>
    intro position read done
    unfold atom at done
    split at done
    · -- A union in brackets takes the tokens of its first operand, and its brackets.
      obtain ⟨⟨inner, behind⟩, union, done⟩ := exists_of_bind_eq_ok done
      have factors : Advances (chain tokens .and .intersect (atom tokens depth)) :=
        fun _ _ done => (chain_ends ih done).1
      have within : position + 1 < behind := (chain_ends factors union).1
      dsimp only [close] at done
      split at done
      · cases done
        show position < behind + 1
        omega
      · cases done
      · cases done
    -- An expression is one token.
    · obtain ⟨predicate, -, done⟩ := exists_of_bind_eq_ok done
      cases done
      exact Nat.lt_succ_self _
    · split at done
      · cases done
      · cases done
    · cases done

section Chain

variable (lower : Nat) (start resume : List Query → Nat → Except SyntaxError Query)
  (finish : Query → Nat → Except SyntaxError Query)

/-- Operands that are collected one by one are the further operands of a chain. -/
theorem others_eq (advances : Advances operand)
    (operands : ∀ collected position, lower ≤ position →
      start collected position =
        operand position >>= fun read => resume (read.1 :: collected) read.2)
    (operators : ∀ collected position, tokens[position]? = some operator →
      resume collected position = start collected (position + 1))
    (bound : Nat) (collected : List Query) {position : Nat} (behind : lower ≤ position) :
    resume collected position = others tokens operator operand bound position >>= fun read =>
      resume (read.1.reverse ++ collected) read.2 := by
  -- The induction is on the bound for the number of operands, one of which is read in every round.
  induction bound generalizing collected position with
  | zero => rfl
  | succ bound ih =>
    unfold others
    split
    -- An operator asks for a further operand, whose own reading is a step of both sides.
    · rename_i found
      rw [operators collected position found, operands collected (position + 1) (by omega)]
      cases first : operand (position + 1) with
      | error fault => rfl
      | ok next =>
        have here := advances _ _ first
        -- The others are collected behind this one, which therefore comes first.
        show resume (next.1 :: collected) next.2 = _
        rw [ih (next.1 :: collected) (by omega)]
        cases rest : others tokens operator operand bound next.2 with
        | error fault => simp [rest, bind, Except.bind]
        | ok later => simp [rest, bind, Except.bind]
    · rfl

/-- A reader that collects operands as long as operators stand between them reads a chain. -/
theorem chain_eq (advances : Advances operand)
    (operands : ∀ collected position, lower ≤ position →
      start collected position =
        operand position >>= fun read => resume (read.1 :: collected) read.2)
    (operators : ∀ collected position, tokens[position]? = some operator →
      resume collected position = start collected (position + 1))
    (complete : ∀ queries position, tokens[position]? ≠ some operator →
      resume queries.reverse position = finish (ofOperands relation queries) position)
    {position : Nat} (behind : lower ≤ position) :
    start [] position = chain tokens operator relation operand position >>= fun read =>
      finish read.1 read.2 := by
  -- The first operand starts the chain, and the lemma above collects the others.
  rw [operands [] position behind]
  unfold chain
  cases first : operand position with
  | error fault => rfl
  | ok next =>
    have here := advances _ _ first
    show resume [next.1] next.2 = _
    rw [others_eq lower start resume advances operands operators tokens.length [next.1] (by omega)]
    cases rest : others tokens operator operand tokens.length next.2 with
    | error fault => simp [rest, bind, Except.bind]
    | ok later =>
      -- No operator is left, so the operands that have been collected are all that there are.
      have stops := (others_ends advances rest).2 (Nat.le_add_left _ _)
      simpa [rest, bind, Except.bind] using complete (next.1 :: later.1) later.2 stops

end Chain

/-- How reading goes on behind a union that is complete. -/
def readClosed (enclosing : List Frame) (query : Query) (position : Nat) :
    List Token → Except SyntaxError Query
  | [] =>
    match enclosing with
    | [] => .ok query
    | _ :: _ => .error .unbalancedBrackets
  | .closing :: rest =>
    match enclosing with
    | [] => .error .unbalancedBrackets
    | outer :: others => readOperator others (outer.addFactor query) (position + 1) rest
  | _ :: _ => .error (.missingOperator position)

/-- How reading goes on behind an intersection that is complete. -/
def readAlternative (enclosing : List Frame) (alternatives : List Query) (position : Nat) :
    List Token → Except SyntaxError Query
  | .or :: rest => readOperand enclosing ⟨alternatives, []⟩ (position + 1) false rest
  | rest => readClosed enclosing (ofOperands .union alternatives.reverse) position rest

/-- An alternative is complete where no further factor follows. -/
theorem readOperator_eq_readAlternative (enclosing : List Frame) (frame : Frame) (position : Nat)
    {rest : List Token} (other : rest.head? ≠ some .and) :
    readOperator enclosing frame position rest =
      readAlternative enclosing frame.nextAlternative.alternatives position rest := by
  -- Apart from an intersection, every token closes the factors first and is looked at then.
  match rest with
  | .and :: rest => exact absurd rfl other
  | [] => cases enclosing <;> rfl
  | .or :: rest => rfl
  | .closing :: rest => cases enclosing <;> rfl
  | .opening :: rest => rfl
  | .expression words :: rest => rfl

/-- A union is complete where no further alternative follows. -/
theorem readAlternative_eq_readClosed (enclosing : List Frame) (alternatives : List Query)
    (position : Nat) {rest : List Token} (other : rest.head? ≠ some .or) :
    readAlternative enclosing alternatives position rest =
      readClosed enclosing (ofOperands .union alternatives.reverse) position rest := by
  match rest with
  | .or :: rest => exact absurd rfl other
  | [] | .and :: rest | .closing :: rest | .opening :: rest | .expression words :: rest => rfl

/-- Whether the token in front of a position is an opening bracket. -/
def isBehindOpening (tokens : List Token) (position : Nat) : Bool :=
  0 < position ∧ tokens[position - 1]? = some .opening

/-- Behind a token it is known whether that token is an opening bracket. -/
theorem isBehindOpening_succ {position : Nat} {token : Token} (found : tokens[position]? = some token) :
    isBehindOpening tokens (position + 1) = decide (token = .opening) := by
  simp [isBehindOpening, found]

/-- What is left at a position starts with the token there. -/
theorem drop_eq_cons {position : Nat} {token : Token} (found : tokens[position]? = some token) :
    tokens.drop position = token :: tokens.drop (position + 1) := by
  rw [List.drop_eq_getElem?_toList_append, found]
  rfl

/-- Nothing but a bracket closes a union. -/
theorem readClosed_of_ne_closing (enclosing : List Frame) (query : Query) (position : Nat) {token : Token}
    (other : token ≠ .closing) (rest : List Token) :
    readClosed enclosing query position (token :: rest) = .error (.missingOperator position) := by
  cases token with
  | closing => exact absurd rfl other
  | opening | and | or => rfl
  | expression words => rfl

/-- Behind a union in brackets reading goes on if the closing bracket is there. -/
theorem readClosed_cons (enclosing : List Frame) (frame : Frame) (query : Query) (position : Nat) :
    readClosed (frame :: enclosing) query position (tokens.drop position) =
      close tokens query position >>= fun read =>
        readOperator enclosing (frame.addFactor read.1) read.2 (tokens.drop read.2) := by
  unfold close
  split
  -- The closing bracket gives the union to the frame that has been waiting for it.
  · rename_i found
    rw [drop_eq_cons found]
    rfl
  -- At the end of the tokens the bracket is missing.
  · rename_i found
    rw [List.drop_eq_nil_of_le (List.getElem?_eq_none_iff.mp found)]
    rfl
  · rename_i token other found
    rw [drop_eq_cons found]
    exact readClosed_of_ne_closing _ query position other _

/-- Behind a union outside of all brackets nothing may follow. -/
theorem readClosed_nil (query : Query) (position : Nat) :
    readClosed [] query position (tokens.drop position) = finish tokens query position := by
  unfold finish
  split
  -- The tokens end with the union, as they have to.
  · rename_i found
    rw [List.drop_eq_nil_of_le (List.getElem?_eq_none_iff.mp found)]
    rfl
  -- A bracket that was never opened is one too many.
  · rename_i found
    rw [drop_eq_cons found]
    rfl
  · rename_i token other found
    rw [drop_eq_cons found]
    exact readClosed_of_ne_closing _ query position other _

/-- Reads on from a position where an operand has to stand. -/
def operandAt (tokens : List Token) (enclosing : List Frame) (frame : Frame) (position : Nat) :
    Except SyntaxError Query :=
  readOperand enclosing frame position (isBehindOpening tokens position) (tokens.drop position)

/-- Reading from left to right takes atoms of a depth as factors, if the depth allows for the tokens that are left. -/
def TakesAtoms (tokens : List Token) (depth : Nat) : Prop :=
  ∀ (enclosing : List Frame) (frame : Frame) {position : Nat}, tokens.length < position + depth →
    operandAt tokens enclosing frame position = atom tokens depth position >>= fun read =>
      readOperator enclosing (frame.addFactor read.1) read.2 (tokens.drop read.2)

/-- Factors with intersections between them are taken as an alternative. -/
theorem operandAt_eq_intersection {depth : Nat} (atoms : TakesAtoms tokens depth)
    (enclosing : List Frame) (alternatives : List Query) {position : Nat}
    (deep : tokens.length < position + depth) :
    operandAt tokens enclosing ⟨alternatives, []⟩ position =
      intersection tokens depth position >>= fun read =>
        readAlternative enclosing (read.1 :: alternatives) read.2 (tokens.drop read.2) := by
  refine chain_eq (tokens.length + 1 - depth)
    (fun factors position => operandAt tokens enclosing ⟨alternatives, factors⟩ position)
    (fun factors position =>
      readOperator enclosing ⟨alternatives, factors⟩ position (tokens.drop position))
    (fun query position =>
      readAlternative enclosing (query :: alternatives) position (tokens.drop position))
    (atom_advances tokens depth) ?_ ?_ ?_ (by omega)
  · intro factors position behind
    exact atoms enclosing ⟨alternatives, factors⟩ (by omega)
  · intro factors position found
    -- The operator is no bracket, so an operand has to follow it.
    simp only [operandAt, isBehindOpening_succ found, drop_eq_cons found]
    rfl
  -- Without a further operator the factors are complete and make one alternative.
  · intro factors position stops
    rw [readOperator_eq_readAlternative _ _ _ (by rwa [List.head?_drop])]
    simp [Frame.nextAlternative]

/-- Alternatives with unions between them are taken as a query. -/
theorem operandAt_eq_union {depth : Nat} (atoms : TakesAtoms tokens depth)
    (enclosing : List Frame) {position : Nat} (deep : tokens.length < position + depth) :
    operandAt tokens enclosing .empty position =
      union tokens depth position >>= fun read =>
        readClosed enclosing read.1 read.2 (tokens.drop read.2) := by
  refine chain_eq (tokens.length + 1 - depth)
    (fun alternatives position => operandAt tokens enclosing ⟨alternatives, []⟩ position)
    (fun alternatives position =>
      readAlternative enclosing alternatives position (tokens.drop position))
    (fun query position => readClosed enclosing query position (tokens.drop position))
    (fun _ _ done => (chain_ends (atom_advances tokens depth) done).1) ?_ ?_ ?_ (by omega)
  -- Every alternative is an intersection, which the frame reads from no factors.
  · intro alternatives position behind
    exact operandAt_eq_intersection atoms enclosing alternatives (by omega)
  · intro alternatives position found
    simp only [operandAt, isBehindOpening_succ found, drop_eq_cons found]
    rfl
  -- Without a further operator the alternatives are complete and make the union.
  · intro alternatives position stops
    rw [readAlternative_eq_readClosed _ _ _ (by rwa [List.head?_drop]), List.reverse_reverse]

/-- Atoms are taken as factors, however deep they are. -/
theorem takesAtoms (tokens : List Token) (depth : Nat) : TakesAtoms tokens depth := by
  -- The induction is on the depth, which every opening bracket lowers by one.
  induction depth with
  | zero =>
    intro enclosing frame position deep
    -- Beyond the end there is no token, and none in front either.
    have ended : tokens.drop position = [] := List.drop_eq_nil_of_le (by omega)
    have alone : isBehindOpening tokens position = false := by
      simp [isBehindOpening, List.getElem?_eq_none (show tokens.length ≤ position - 1 by omega)]
    rw [operandAt, ended, alone]
    rfl
  | succ depth ih =>
    intro enclosing frame position deep
    unfold atom
    split
    · rename_i found
      -- The frame waits with the others while a union is read in the brackets.
      have deeper : tokens.length < position + 1 + depth := by omega
      have within := operandAt_eq_union ih (frame :: enclosing) deeper
      rw [operandAt, isBehindOpening_succ found] at within
      rw [operandAt, drop_eq_cons found, readOperand]
      refine within.trans ?_
      show _ = (union tokens depth (position + 1) >>= fun read => close tokens read.1 read.2) >>= _
      cases union tokens depth (position + 1) with
      | error fault => rfl
      | ok read => exact readClosed_cons enclosing frame read.1 read.2
    · -- An expression is read in the same way and becomes a factor.
      rename_i words found
      rw [operandAt, drop_eq_cons found, readOperand]
      cases Predicate.ofChars words with
      | error fault => rfl
      | ok predicate => rfl
    · -- At the end an operand is missing, and a bracket right in front of it has a fault of its own.
      rename_i found
      have ended : tokens.drop position = [] :=
        List.drop_eq_nil_of_le (List.getElem?_eq_none_iff.mp found)
      rw [operandAt, ended, readOperand]
      by_cases opened : 0 < position ∧ tokens[position - 1]? = some .opening
      · simp [isBehindOpening, opened, bind, Except.bind]
      · simp [isBehindOpening, opened, bind, Except.bind]
    · -- No other token begins an operand.
      rename_i token opening expression found
      rw [operandAt, drop_eq_cons found]
      cases token with
      | opening => exact absurd rfl opening
      | expression words => exact absurd rfl (expression words)
      | closing | and | or => rfl

end Descent

/-- Tokens form the same query, or have the same fault, when they are read by descent. -/
theorem ofTokens_eq_descend (tokens : List Token) : ofTokens tokens = descend tokens := by
  cases tokens with
  | nil => rfl
  | cons token rest =>
    -- One level more than there are tokens is deep enough, and nothing is pending before the first of them.
    have deep : (token :: rest).length < 0 + ((token :: rest).length + 1) := by omega
    have whole := Descent.operandAt_eq_union (Descent.takesAtoms (token :: rest) _) [] deep
    simp only [Descent.readClosed_nil] at whole
    exact whole

end Decksmith.Query
