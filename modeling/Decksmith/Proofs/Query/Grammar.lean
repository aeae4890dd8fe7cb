import Decksmith.Query.Parse

/-! The grammar of structural tokens, and that reading accepts just what derives from it. -/

namespace Decksmith

/-- The token between the operands of a group. -/
def SetRelation.token : SetRelation → Token
  | union => .or
  | intersect => .and

namespace Query

mutual

/-- A union: one or more alternatives. A single one stands for itself. -/
inductive Disjunction : List Token → Query → Prop where
  | chain {tokens : List Token} {operands : List Query} (run : Alternatives tokens operands) :
      Disjunction tokens (ofOperands .union operands)

/-- One or more intersections, with an operator between any two. -/
inductive Alternatives : List Token → List Query → Prop where
  | last {tokens : List Token} {query : Query} (only : Conjunction tokens query) :
      Alternatives tokens [query]
  | before {tokens rest : List Token} {query : Query} {others : List Query}
      (first : Conjunction tokens query) (run : Alternatives rest others) :
      Alternatives (tokens ++ .or :: rest) (query :: others)

/-- An intersection: one or more factors. A single one stands for itself. -/
inductive Conjunction : List Token → Query → Prop where
  | chain {tokens : List Token} {operands : List Query} (run : Factors tokens operands) :
      Conjunction tokens (ofOperands .intersect operands)

/-- One or more atoms, with an operator between any two. -/
inductive Factors : List Token → List Query → Prop where
  | last {tokens : List Token} {query : Query} (only : Atom tokens query) : Factors tokens [query]
  | before {tokens rest : List Token} {query : Query} {others : List Query}
      (first : Atom tokens query) (run : Factors rest others) :
      Factors (tokens ++ .and :: rest) (query :: others)

/-- A union in brackets, or the expression of a predicate. -/
inductive Atom : List Token → Query → Prop where
  | bracketed {tokens : List Token} {query : Query} (inner : Disjunction tokens query) :
      Atom (.opening :: (tokens ++ [.closing])) query
  | expression {text : List Char} {predicate : Predicate}
      (read : Predicate.ofChars text = .ok predicate) : Atom [.expression text] (test predicate)

end

/-- A property of tokens and their operands that is closed under the productions of the grammar. -/
structure Closed (P : List Token → List Query → Prop) : Prop where
  expression : ∀ {text : List Char} {predicate : Predicate},
    Predicate.ofChars text = .ok predicate → P [.expression text] [test predicate]
  bracketed : ∀ {tokens : List Token} {query : Query}, P tokens [query] →
    P (.opening :: (tokens ++ [.closing])) [query]
  join : ∀ (relation : SetRelation) {tokens rest : List Token} {query : Query} {others : List Query},
    P tokens [query] → P rest others → P (tokens ++ relation.token :: rest) (query :: others)
  chain : ∀ (relation : SetRelation) {tokens : List Token} {operands : List Query},
    P tokens operands → P tokens [ofOperands relation operands]

mutual

/-- What is closed under the productions holds of every union. -/
theorem Disjunction.induct {P : List Token → List Query → Prop} (closed : Closed P)
    {tokens : List Token} {query : Query} : Disjunction tokens query → P tokens [query]
  | .chain run => closed.chain .union (Alternatives.induct closed run)

/-- It holds of alternatives. -/
theorem Alternatives.induct {P : List Token → List Query → Prop} (closed : Closed P)
    {tokens : List Token} {operands : List Query} : Alternatives tokens operands → P tokens operands
  | .last only => Conjunction.induct closed only
  | .before first run =>
    closed.join .union (Conjunction.induct closed first) (Alternatives.induct closed run)

/-- It holds of every intersection. -/
theorem Conjunction.induct {P : List Token → List Query → Prop} (closed : Closed P)
    {tokens : List Token} {query : Query} : Conjunction tokens query → P tokens [query]
  | .chain run => closed.chain .intersect (Factors.induct closed run)

/-- It holds of factors. -/
theorem Factors.induct {P : List Token → List Query → Prop} (closed : Closed P)
    {tokens : List Token} {operands : List Query} : Factors tokens operands → P tokens operands
  | .last only => Atom.induct closed only
  | .before first run =>
    closed.join .intersect (Atom.induct closed first) (Factors.induct closed run)

/-- It holds of every atom. -/
theorem Atom.induct {P : List Token → List Query → Prop} (closed : Closed P)
    {tokens : List Token} {query : Query} : Atom tokens query → P tokens [query]
  | .bracketed inner => closed.bracketed (Disjunction.induct closed inner)
  | .expression read => closed.expression read

end

mutual

/-- Reading a union from an empty frame ends in a frame that closes to it. -/
theorem Disjunction.read {tokens : List Token} {query : Query} : Disjunction tokens query →
    ∀ (enclosing : List Frame) (position : Nat) (after : Bool) (rest : List Token),
      ∃ frame final, readOperand enclosing .empty position after (tokens ++ rest) =
        readOperator enclosing frame final rest ∧ frame.close = query
  | .chain run => by
    intro enclosing position after rest
    -- An empty frame has neither alternatives nor factors yet.
    obtain ⟨frame, final, read, collected⟩ :=
      Alternatives.read run enclosing [] position after rest
    refine ⟨frame, final, read, ?_⟩
    -- Closing the frame completes the last alternative and joins all of them.
    rw [Frame.close, collected]
    simp

/-- Reading alternatives adds them to those of the frame. -/
theorem Alternatives.read {tokens : List Token} {operands : List Query} :
    Alternatives tokens operands → ∀ (enclosing : List Frame) (alternatives : List Query)
      (position : Nat) (after : Bool) (rest : List Token),
      ∃ frame final, readOperand enclosing ⟨alternatives, []⟩ position after (tokens ++ rest) =
        readOperator enclosing frame final rest ∧
        frame.nextAlternative.alternatives = operands.reverse ++ alternatives
  | .last only => by
    intro enclosing alternatives position after rest
    obtain ⟨frame, final, read, completed⟩ :=
      Conjunction.read only enclosing alternatives position after rest
    exact ⟨frame, final, read, by simp [completed]⟩
  | @Alternatives.before _ others _ _ first run => by
    intro enclosing alternatives position after rest
    obtain ⟨frame, middle, read, completed⟩ :=
      Conjunction.read first enclosing alternatives position after (.or :: (others ++ rest))
    -- The operator completes the alternative before the next one is read.
    obtain ⟨last, final, further, collected⟩ :=
      Alternatives.read run enclosing (_ :: alternatives) (middle + 1) false rest
    refine ⟨last, final, ?_, by simpa using collected⟩
    rw [List.append_assoc, List.cons_append, read, readOperator, completed, further]

/-- Reading an intersection ends in a frame whose next alternative it is. -/
theorem Conjunction.read {tokens : List Token} {query : Query} : Conjunction tokens query →
    ∀ (enclosing : List Frame) (alternatives : List Query) (position : Nat) (after : Bool)
      (rest : List Token),
      ∃ frame final, readOperand enclosing ⟨alternatives, []⟩ position after (tokens ++ rest) =
        readOperator enclosing frame final rest ∧
        frame.nextAlternative = ⟨query :: alternatives, []⟩
  | .chain run => by
    intro enclosing alternatives position after rest
    -- The frame starts without factors, so its factors are those of this intersection.
    obtain ⟨final, read⟩ := Factors.read run enclosing ⟨alternatives, []⟩ position after rest
    exact ⟨_, final, read, by simp [Frame.nextAlternative]⟩

/-- Reading factors adds them to those of the frame. -/
theorem Factors.read {tokens : List Token} {operands : List Query} : Factors tokens operands →
    ∀ (enclosing : List Frame) (frame : Frame) (position : Nat) (after : Bool)
      (rest : List Token),
      ∃ final, readOperand enclosing frame position after (tokens ++ rest) =
        readOperator enclosing ⟨frame.alternatives, operands.reverse ++ frame.factors⟩ final rest
  | .last only => by
    intro enclosing frame position after rest
    exact Atom.read only enclosing frame position after rest
  | @Factors.before _ others _ _ first run => by
    intro enclosing frame position after rest
    -- The factors stay in the frame until a union operator or a bracket completes them.
    obtain ⟨middle, read⟩ :=
      Atom.read first enclosing frame position after (.and :: (others ++ rest))
    obtain ⟨final, further⟩ :=
      Factors.read run enclosing (frame.addFactor _) (middle + 1) false rest
    refine ⟨final, ?_⟩
    rw [List.append_assoc, List.cons_append, read, readOperator, further]
    simp [Frame.addFactor]

/-- Reading an atom adds it to the factors of the frame. -/
theorem Atom.read {tokens : List Token} {query : Query} : Atom tokens query →
    ∀ (enclosing : List Frame) (frame : Frame) (position : Nat) (after : Bool)
      (rest : List Token),
      ∃ final, readOperand enclosing frame position after (tokens ++ rest) =
        readOperator enclosing (frame.addFactor query) final rest
  | .bracketed inner => by
    intro enclosing frame position after rest
    -- The frame waits while the brackets are read, and takes what they close to.
    obtain ⟨closed, final, read, same⟩ :=
      Disjunction.read inner (frame :: enclosing) (position + 1) true (.closing :: rest)
    refine ⟨final + 1, ?_⟩
    rw [List.cons_append, List.append_assoc, List.singleton_append, readOperand, read,
      readOperator, same]
  | .expression read => by
    intro enclosing frame position after rest
    refine ⟨position + 1, ?_⟩
    rw [List.singleton_append, readOperand, read]

end

/-- A derived union is read from its tokens. -/
theorem Disjunction.ofTokens {tokens : List Token} {query : Query}
    (derived : Disjunction tokens query) : Query.ofTokens tokens = .ok query := by
  obtain ⟨frame, final, read, same⟩ := derived.read [] 0 false []
  rw [List.append_nil] at read
  -- Nothing is left behind the tokens, so the outermost frame is closed.
  have read : readOperand [] .empty 0 false tokens = .ok query := by
    rw [read, readOperator, same]
  -- An empty list would be read as an error, so there is a first token.
  cases tokens with
  | nil => simp [readOperand] at read
  | cons token rest => exact read

/-- Further alternatives behind others. -/
theorem Alternatives.append {tokens more : List Token} {operands further : List Query}
    (behind : Alternatives more further) : Alternatives tokens operands →
      Alternatives (tokens ++ .or :: more) (operands ++ further)
  | .last only => .before only behind
  | .before first run => by
    simpa using Alternatives.before first (behind.append run)

/-- Further factors behind others. -/
theorem Factors.append {tokens more : List Token} {operands further : List Query}
    (behind : Factors more further) : Factors tokens operands →
      Factors (tokens ++ .and :: more) (operands ++ further)
  | .last only => .before only behind
  | .before first run => by
    simpa using Factors.before first (behind.append run)

/-- Operands, in reverse, that are each followed by their operator. -/
inductive Awaiting (operator : Token) (Run : List Token → List Query → Prop) :
    List Token → List Query → Prop where
  | start : Awaiting operator Run [] []
  | next {tokens : List Token} {operands : List Query} (run : Run tokens operands) :
      Awaiting operator Run (tokens ++ [operator]) operands.reverse

/-- One more alternative behind those that wait for it. -/
theorem Awaiting.alternatives {before more : List Token} {operands : List Query} {query : Query}
    (waiting : Awaiting .or Alternatives before operands) (last : Conjunction more query) :
    Alternatives (before ++ more) (query :: operands).reverse := by
  -- Behind the last operator another alternative ends the run, or it is the first one of all.
  cases waiting with
  | start => exact .last last
  | next run => simpa using (Alternatives.last last).append run

/-- One more factor behind those that wait for it. -/
theorem Awaiting.factors {before more : List Token} {operands : List Query} {query : Query}
    (waiting : Awaiting .and Factors before operands) (last : Atom more query) :
    Factors (before ++ more) (query :: operands).reverse := by
  cases waiting with
  | start => exact .last last
  | next run => simpa using (Factors.last last).append run

namespace Frame

/-- The tokens that a frame has read when an operand has to follow. -/
def Open (frame : Frame) (tokens : List Token) : Prop :=
  ∃ before current, tokens = before ++ current ∧
    Awaiting .or Alternatives before frame.alternatives ∧ Awaiting .and Factors current frame.factors

/-- The tokens that a frame has read when its last operand is complete. -/
def Complete (frame : Frame) (tokens : List Token) : Prop :=
  ∃ before current, tokens = before ++ current ∧
    Awaiting .or Alternatives before frame.alternatives ∧ Factors current frame.factors.reverse

/-- A new frame has read nothing. -/
theorem empty_open : empty.Open [] := ⟨[], [], rfl, .start, .start⟩

/-- A frame that takes a factor is complete. -/
theorem Open.addFactor {frame : Frame} {tokens more : List Token} {factor : Query}
    (waiting : frame.Open tokens) (atom : Atom more factor) :
    (frame.addFactor factor).Complete (tokens ++ more) := by
  obtain ⟨before, current, rfl, earlier, factors⟩ := waiting
  exact ⟨before, current ++ more, List.append_assoc .., earlier, factors.factors atom⟩

/-- Behind the operator of an intersection another factor has to follow. -/
theorem Complete.and {frame : Frame} {tokens : List Token} (complete : frame.Complete tokens) :
    frame.Open (tokens ++ [.and]) := by
  obtain ⟨before, current, rfl, earlier, factors⟩ := complete
  exact ⟨before, current ++ [.and], List.append_assoc .., earlier, by simpa using Awaiting.next factors⟩

/-- The alternatives of a complete frame are complete with the current one. -/
theorem Complete.alternatives {frame : Frame} {tokens : List Token}
    (complete : frame.Complete tokens) :
    Alternatives tokens frame.nextAlternative.alternatives.reverse := by
  obtain ⟨before, current, rfl, earlier, factors⟩ := complete
  exact earlier.alternatives (.chain factors)

/-- Behind the operator of a union another alternative has to follow. -/
theorem Complete.or {frame : Frame} {tokens : List Token} (complete : frame.Complete tokens) :
    frame.nextAlternative.Open (tokens ++ [.or]) :=
  ⟨tokens ++ [.or], [], (List.append_nil _).symm,
    by simpa using Awaiting.next complete.alternatives, .start⟩

/-- A complete frame closes to the union that its tokens derive. -/
theorem Complete.close {frame : Frame} {tokens : List Token} (complete : frame.Complete tokens) :
    Disjunction tokens frame.close :=
  .chain complete.alternatives

end Frame

/-- The tokens that the enclosing frames have read, with the opening bracket behind each. -/
inductive Enclosed : List Frame → List Token → Prop where
  | outermost : Enclosed [] []
  | within {frame : Frame} {enclosing : List Frame} {before tokens : List Token}
      (outer : Enclosed enclosing before) (waiting : frame.Open tokens) :
      Enclosed (frame :: enclosing) (before ++ tokens ++ [.opening])

mutual

/-- What is read where an operand has to stand is derived together with what came before. -/
theorem readOperand_sound {query : Query} (rest : List Token) (enclosing : List Frame)
    (frame : Frame) (position : Nat) (after : Bool) {before tokens : List Token}
    (outer : Enclosed enclosing before) (waiting : frame.Open tokens)
    (read : readOperand enclosing frame position after rest = .ok query) :
    Disjunction (before ++ tokens ++ rest) query := by
  match rest with
  -- A text must not end here.
  | [] => simp [readOperand] at read
  | .opening :: rest =>
    rw [readOperand] at read
    -- The frame has to wait, and a new one takes its place.
    simpa using readOperand_sound rest _ _ _ _ (outer.within waiting) Frame.empty_open read
  | .expression text :: rest =>
    rw [readOperand] at read
    cases found : Predicate.ofChars text with
    | error fault => simp [found] at read
    | ok predicate =>
      simp only [found] at read
      -- The predicate is a factor of the present frame.
      simpa using readOperator_sound rest _ _ _ outer (waiting.addFactor (.expression found)) read
  | .closing :: _ => simp [readOperand] at read
  | .and :: _ => simp [readOperand] at read
  | .or :: _ => simp [readOperand] at read

/-- What is read behind an operand is derived together with what came before. -/
theorem readOperator_sound {query : Query} (rest : List Token) (enclosing : List Frame)
    (frame : Frame) (position : Nat) {before tokens : List Token}
    (outer : Enclosed enclosing before) (complete : frame.Complete tokens)
    (read : readOperator enclosing frame position rest = .ok query) :
    Disjunction (before ++ tokens ++ rest) query := by
  match rest with
  | [] =>
    cases outer with
    | outermost =>
      rw [readOperator] at read
      cases read
      -- Nothing encloses the frame, so its union is the whole query.
      simpa using complete.close
    | within _ _ => simp [readOperator] at read
  | .and :: rest =>
    rw [readOperator] at read
    simpa using readOperand_sound rest _ _ _ _ outer complete.and read
  | .or :: rest =>
    rw [readOperator] at read
    simpa using readOperand_sound rest _ _ _ _ outer complete.or read
  | .closing :: rest =>
    cases outer with
    | outermost => simp [readOperator] at read
    | within outer waiting =>
      -- The bracket makes the inner union a factor of the frame outside.
      rw [readOperator] at read
      simpa using readOperator_sound rest _ _ _ outer
        (waiting.addFactor (.bracketed complete.close)) read
  | .opening :: _ => simp [readOperator] at read
  | .expression _ :: _ => simp [readOperator] at read

end

/-- The tokens that form a query are those that derive it. -/
theorem ofTokens_ok_iff {tokens : List Token} {query : Query} :
    ofTokens tokens = .ok query ↔ Disjunction tokens query := by
  -- A grammar that derives nothing from no tokens agrees with the error for an empty query.
  refine ⟨fun read => ?_, Disjunction.ofTokens⟩
  cases tokens with
  | nil => cases read
  | cons token rest =>
    exact readOperand_sound (token :: rest) _ _ _ _ .outermost Frame.empty_open read

end Query

end Decksmith
