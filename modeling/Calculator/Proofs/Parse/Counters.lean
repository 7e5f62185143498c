import Calculator.Expr.Parser
import Calculator.Proofs.Parse.Sessions

/-! # What the counters of a parser count

A parser reads what a run says, and its counters go along: the cursor stands before the tokens that
the run leaves, the height is that of the tree, and the level is the one that the run hands down.
What opens a level closes it again, so that a reading that comes to its end leaves as many levels
open as it found. No counter is raised beyond the number of tokens, and none is lowered below zero.
-/

namespace Calculator

open Parse

variable {input : Parser.Input} {tokens rest : List Token} {token : Token} {depth : Nat}
  {last opening : Span} {tree : Expr} {reading : Reading}

/-- Whether some of the tokens follow one at a place. -/
def Behind (tokens : List Token) (last : Span) (rest : List Token) : Prop :=
  ∃ token : Token, token.span = last ∧ token :: rest <:+ tokens

theorem Behind.suffix (behind : Behind tokens last rest) : rest <:+ tokens := by
  obtain ⟨token, -, suffix⟩ := behind
  exact (List.suffix_cons token rest).trans suffix

namespace Parse

/-- Whether a task goes on behind the token at its place. -/
def Task.Placed (tokens rest : List Token) : Task → Prop
  | extend _ _ last => Behind tokens last rest
  | _ => True

theorem Task.placed_right (op : BinaryOp) (place : Span) :
    (Task.right op place).Placed tokens rest := by
  unfold Task.right
  split <;> trivial

/-- Whether a reading ends with the token at its place. -/
def Reading.Placed (tokens : List Token) : Reading → Prop
  | done _ last rest => Behind tokens last rest
  | failed .. => True

theorem Reading.Placed.map (placed : reading.Placed tokens) (change : Expr → Expr) :
    (reading.map change).Placed tokens := by
  cases reading <;> exact placed

theorem Reading.Placed.close (placed : reading.Placed tokens) (opening : Span) (depth : Nat) :
    (reading.close opening depth).Placed tokens := by
  rcases reading with ⟨tree, last, _ | ⟨token, left⟩⟩ | ⟨fault, depth', left⟩
  · trivial
  · by_cases closes : token.lexeme = .symbol .closeParen
    · rw [Reading.close, if_pos closes]
      exact ⟨token, rfl, Behind.suffix placed⟩
    · rw [close_other closes]
      trivial
  · trivial

variable {limits : Limits} {finish : Span} {task : Task}

/-- What a run reads ends with the token at its place. -/
theorem Run.placed (run : Run limits finish task depth rest reading) (suffix : rest <:+ tokens)
    (placed : task.Placed tokens rest) : reading.Placed tokens := by
  induction run with
  | operandMissing | stray | callEnds | callUnopened | signedPowerDeep | nestedDeep => trivial
  | operandFailed | operandTall | rightFailed | rightTall => trivial
  | number => exact ⟨_, rfl, suffix⟩
  | signedPower _ _ _ ih =>
    exact (ih ((List.suffix_cons _ _).trans suffix) ⟨_, rfl, suffix⟩).map _
  | negate _ ih => exact (ih ((List.suffix_cons _ _).trans suffix) trivial).map _
  | group _ ih => exact (ih ((List.suffix_cons _ _).trans suffix) trivial).close _ _
  | call _ ih =>
    have inside := (List.suffix_cons _ _).trans ((List.suffix_cons _ _).trans suffix)
    exact ((ih inside trivial).close _ _).map _
  | expression _ _ _ ihFirst ihMore =>
    have first := ihFirst suffix trivial
    exact ihMore first.suffix first
  | nested _ _ ih => exact ih suffix trivial
  | stop => exact placed
  | extend _ _ _ _ _ ihRight ihMore =>
    have right := ihRight ((List.suffix_cons _ _).trans suffix) (Task.placed_right _ _)
    exact ihMore right.suffix right

end Parse

namespace Parser

/-- A parser that has come to the last of its tokens, with some levels open. -/
def Input.before (input : Input) (rest : List Token) (depth : Nat) : Parser :=
  ⟨input.tokens.length - rest.length, depth⟩

theorem getElem?_before (suffix : rest <:+ input.tokens) :
    input.tokens[input.tokens.length - rest.length]? = rest.head? := by
  obtain ⟨used, split⟩ := suffix
  rw [← split, List.length_append, Nat.add_sub_cancel, List.getElem?_append_right (Nat.le_refl _),
    Nat.sub_self, List.head?_eq_getElem?]

/-- A token less ahead is a token more passed. -/
theorem cursor_succ (suffix : token :: rest <:+ input.tokens) :
    input.tokens.length - (token :: rest).length + 1 = input.tokens.length - rest.length := by
  have short := suffix.length_le
  rw [List.length_cons] at short ⊢
  omega

theorem peek_before (suffix : rest <:+ input.tokens) (depth : Nat) :
    (peek input).outcome (input.before rest depth) =
      some (.ok rest.head?, input.before rest depth) := by
  rw [← getElem?_before suffix]
  rfl

theorem next_nil (depth : Nat) :
    (next input).outcome (input.before [] depth) = some (.ok none, input.before [] depth) := by
  unfold next
  rw [Steps.outcome_bind_of_ok (peek_before List.nil_suffix depth)]
  rfl

theorem next_cons (suffix : token :: rest <:+ input.tokens) (depth : Nat) :
    (next input).outcome (input.before (token :: rest) depth) =
      some (.ok (some token), input.before rest depth) := by
  have next := cursor_succ suffix
  have room : (input.before (token :: rest) depth).cursor < input.top := by
    have fits := input.fits
    change input.tokens.length - (token :: rest).length < input.top
    omega
  have counts : Counter.raise input.top (input.before (token :: rest) depth).cursor =
      some (input.before rest depth).cursor := (if_pos room).trans (congrArg some next)
  unfold Parser.next
  rw [Steps.outcome_bind_of_ok (peek_before suffix depth)]
  dsimp only [List.head?_cons]
  rw [Steps.outcome_get_bind, counts, Steps.outcome_some_bind, Steps.outcome_set_bind]
  rfl

theorem enter_low (room : depth < input.top) (low : depth + 1 ≤ input.limits.maxDepth) :
    (enter input opening).outcome (input.before rest depth) =
      some (.ok (), input.before rest (depth + 1)) := by
  have counts : Counter.raise input.top (input.before rest depth).depth = some (depth + 1) :=
    if_pos room
  unfold enter
  rw [Steps.outcome_get_bind, counts, Steps.outcome_some_bind, Steps.outcome_set_bind,
    if_neg (Nat.not_lt.mpr low)]
  rfl

theorem enter_deep (room : depth < input.top) (deep : input.limits.maxDepth < depth + 1) :
    (enter input opening).outcome (input.before rest depth) =
      some (.error (.tooComplex input.limits.maxDepth opening),
        input.before rest (depth + 1)) := by
  have counts : Counter.raise input.top (input.before rest depth).depth = some (depth + 1) :=
    if_pos room
  unfold enter
  rw [Steps.outcome_get_bind, counts, Steps.outcome_some_bind, Steps.outcome_set_bind,
    if_pos deep]
  rfl

theorem checkHeight_low {height : Nat} (low : height ≤ input.limits.maxHeight) (span : Span)
    (parser : Parser) : (checkHeight input height span).outcome parser = some (.ok (), parser) := by
  unfold checkHeight
  rw [if_neg (Nat.not_lt.mpr low)]
  rfl

theorem checkHeight_tall {height : Nat} (tall : input.limits.maxHeight < height) (span : Span)
    (parser : Parser) : (checkHeight input height span).outcome parser =
      some (.error (.tooTall input.limits.maxHeight span), parser) := by
  unfold checkHeight
  rw [if_pos tall]
  rfl

theorem previousSpan_before (behind : Behind input.tokens last rest) (depth : Nat) :
    (previousSpan input).outcome (input.before rest depth) =
      some (.ok last, input.before rest depth) := by
  obtain ⟨token, rfl, suffix⟩ := behind
  have before := getElem?_before suffix
  unfold previousSpan
  rw [Steps.outcome_get_bind]
  change (pure _ : Step Span).outcome _ = _
  rw [Input.before, ← cursor_succ suffix, Counter.lower, Option.bind_some, before]
  rfl

theorem nextIs_caret (suffix : rest <:+ input.tokens) (depth : Nat) :
    (nextIs input .caret).outcome (input.before rest depth) =
      some (.ok (startsWithCaret rest), input.before rest depth) := by
  unfold nextIs
  rw [Steps.outcome_bind_of_ok (peek_before suffix depth)]
  cases rest <;> rfl

variable {steps : Step Expr} {parser : Parser}

/-- What comes of a reading that started with `depth` levels open. -/
def Input.result (input : Input) (depth : Nat) : Reading → Except ParseFault Expr × Parser
  | .done tree _ rest => (.ok tree, input.before rest depth)
  | .failed fault depth' rest => (.error fault, input.before rest depth')

/-- The steps that carry out a task. A nested one opens its level first. -/
def perform (input : Input) : Task → Step Expr
  | .operand => input.operand
  | .expression power => input.expression power
  | .nested opening power => do
    enter input opening
    input.expression power
  | .extend power lhs _ => input.extend lhs lhs.height power

/-- A parser that turns to a task on some level. The level of a nested task is not yet open. -/
def Input.start (input : Input) (rest : List Token) (depth : Nat) : Task → Parser
  | .nested .. => input.before rest (depth - 1)
  | _ => input.before rest depth

/-- A level that steps find open is closed behind them. -/
theorem outcome_leave (change : Expr → Expr)
    (read : steps.outcome parser = some (input.result (depth + 1) reading)) :
    (steps >>= fun tree => leave >>= fun _ => pure (change tree)).outcome parser =
      some (input.result depth (reading.map change)) := by
  cases reading with
  | done => exact Steps.outcome_bind_of_ok read
  | failed => exact Steps.outcome_bind_of_error read

/-- A level that a parenthesis opened is closed behind the other one. -/
theorem outcome_close (change : Expr → Expr) (placed : reading.Placed input.tokens)
    (read : steps.outcome parser = some (input.result (depth + 1) reading)) :
    (steps >>= fun tree => expectClose input opening >>= fun _ => leave >>= fun _ =>
      pure (change tree)).outcome parser =
      some (input.result depth ((reading.close opening (depth + 1)).map change)) := by
  rcases reading with ⟨tree, last, _ | ⟨token, rest⟩⟩ | ⟨fault, depth', rest⟩
  · have missing : (expectClose input opening).outcome (input.before [] (depth + 1)) =
        some (.error (.unclosedParenthesis opening), input.before [] (depth + 1)) := by
      unfold expectClose
      rw [Steps.outcome_bind_of_ok (next_nil _)]
      rfl
    rw [Steps.outcome_bind_of_ok read, Steps.outcome_bind_of_error missing]
    rfl
  · have passes := next_cons (Behind.suffix placed) (depth + 1)
    rw [Steps.outcome_bind_of_ok read]
    by_cases closes : token.lexeme = .symbol .closeParen
    · have closed : (expectClose input opening).outcome (input.before (token :: rest) (depth + 1)) =
          some (.ok (), input.before rest (depth + 1)) := by
        unfold expectClose
        rw [Steps.outcome_bind_of_ok passes]
        dsimp only
        rw [if_pos closes]
        rfl
      rw [Steps.outcome_bind_of_ok closed, Reading.close, if_pos closes]
      rfl
    · have other : (expectClose input opening).outcome (input.before (token :: rest) (depth + 1)) =
          some (.error (.unexpectedToken .closeParen token.lexeme token.span),
            input.before rest (depth + 1)) := by
        unfold expectClose
        rw [Steps.outcome_bind_of_ok passes]
        dsimp only
        rw [if_neg closes]
        rfl
      rw [Steps.outcome_bind_of_error other, Reading.close_other closes]
      rfl
  · exact Steps.outcome_bind_of_error read

/-- What a parser needs to turn to a task: its tokens come last, behind the place of the task, every
level has been paid for with a token, and the level of a nested task is among them. -/
structure Ready (input : Input) (task : Task) (depth : Nat) (rest : List Token) : Prop where
  suffix : rest <:+ input.tokens
  placed : task.Placed input.tokens rest
  opened : task.entered ≤ depth
  paid : depth + rest.length ≤ input.tokens.length

namespace Ready

variable {task other : Task} {power : Nat}

/-- There is room for a level that a token opens. -/
theorem room (ready : Ready input task depth (token :: rest)) : depth < input.top := by
  have paid := ready.paid
  have fits := input.fits
  rw [List.length_cons] at paid
  omega

/-- There is room for the level of a nested task. -/
theorem opens {opening : Span} (ready : Ready input (.nested opening power) (depth + 1) rest) :
    depth < input.top := by
  have paid := ready.paid
  have fits := input.fits
  omega

/-- A task on the same tokens and the same level. -/
theorem turn (ready : Ready input task depth rest) (placed : other.Placed input.tokens rest)
    (opened : other.entered ≤ depth) : Ready input other depth rest :=
  ⟨ready.suffix, placed, opened, ready.paid⟩

/-- A token that is passed pays for a level. -/
theorem ahead {level : Nat} (ready : Ready input task depth (token :: rest))
    (next : level ≤ depth + 1) (placed : other.Placed input.tokens rest)
    (opened : other.entered ≤ level) : Ready input other level rest := by
  refine ⟨(List.suffix_cons token rest).trans ready.suffix, placed, opened, ?_⟩
  have paid := ready.paid
  rw [List.length_cons] at paid
  omega

theorem enter (ready : Ready input task depth (token :: rest))
    (placed : other.Placed input.tokens rest) (opened : other.entered ≤ depth + 1) :
    Ready input other (depth + 1) rest :=
  ready.ahead (Nat.le_refl _) placed opened

theorem step (ready : Ready input task depth (token :: rest))
    (placed : other.Placed input.tokens rest) (opened : other.entered ≤ depth) :
    Ready input other depth rest :=
  ready.ahead (Nat.le_succ _) placed opened

theorem right {op : BinaryOp} (ready : Ready input task depth (token :: rest)) (place : Span) :
    Ready input (.right op place) (rightDepth op depth) rest := by
  unfold Task.right rightDepth
  split
  · exact ready.enter trivial (Nat.le_add_left 1 _)
  · exact ready.step trivial (Nat.zero_le _)

theorem behind (ready : Ready input task depth tokens)
    (placed : Behind input.tokens last rest) (shorter : rest.length ≤ tokens.length)
    (follows : other.Placed input.tokens rest) (opened : other.entered ≤ depth) :
    Ready input other depth rest :=
  ⟨placed.suffix, follows, opened, Nat.le_trans (Nat.add_le_add_left shorter _) ready.paid⟩

end Ready

variable {lhs rhs : Expr} {op : BinaryOp} {power : Nat} {place : Span}

/-- Operators are read behind an operand that is not too tall. -/
theorem outcome_operators (behind : Behind input.tokens last rest)
    (low : lhs.height ≤ input.limits.maxHeight) :
    (input.operators lhs power).outcome (input.before rest depth) =
      (input.extend lhs lhs.height power).outcome (input.before rest depth) := by
  rw [Input.operators, Steps.outcome_bind_of_ok (previousSpan_before behind depth),
    Steps.outcome_bind_of_ok (checkHeight_low low last _)]

/-- Before anything else than an operator that binds its left side, an expression ends. -/
theorem outcome_stop (suffix : rest <:+ input.tokens) (stops : Stops power rest) (height : Nat) :
    (input.extend lhs height power).outcome (input.before rest depth) =
      some (.ok lhs, input.before rest depth) := by
  rw [Input.extend, Steps.outcome_bind_of_ok (peek_before suffix depth)]
  cases rest with
  | nil => rfl
  | cons token rest =>
    dsimp only [List.head?_cons]
    cases operator : token.lexeme.operator? with
    | none => rfl
    | some op =>
      dsimp only
      rw [if_pos (stops op operator)]
      rfl

/-- Before an operator that binds its left side, its right side is read. -/
theorem outcome_extend (suffix : token :: rest <:+ input.tokens)
    (operator : token.lexeme.operator? = some op) (binds : power ≤ op.leftPower) :
    (input.extend lhs lhs.height power).outcome (input.before (token :: rest) depth) =
      ((if op = .pow then do
          enter input token.span
          let rhs ← input.expression op.rightPower
          leave
          return rhs
        else input.expression op.rightPower) >>= fun rhs => do
          checkHeight input (Expr.binary op lhs rhs).height token.span
          input.extend (.binary op lhs rhs) (Expr.binary op lhs rhs).height power).outcome
        (input.before rest depth) := by
  rw [Input.extend, Steps.outcome_bind_of_ok (peek_before suffix depth)]
  dsimp only [List.head?_cons]
  rw [operator]
  dsimp only
  rw [if_neg (Nat.not_lt.mpr binds), Steps.outcome_bind_of_ok (next_cons suffix depth)]
  rfl

/-- A level that the right side of an operator opens is closed behind it. -/
theorem outcome_right
    (read : (perform input (.right op place)).outcome
      (input.start rest (rightDepth op depth) (.right op place)) =
        some (input.result (rightDepth op depth) reading)) :
    (if op = .pow then do
        enter input place
        let rhs ← input.expression op.rightPower
        leave
        return rhs
      else input.expression op.rightPower : Step Expr).outcome (input.before rest depth) =
      some (input.result depth reading) := by
  unfold Task.right rightDepth at read
  by_cases exponent : op = .pow
  · simp only [exponent, ↓reduceIte, perform, Input.start, Nat.add_sub_cancel] at read ⊢
    rw [← bind_assoc, ← reading.map_id]
    exact outcome_leave id read
  · simpa only [exponent, ↓reduceIte, perform, Input.start] using read

/-- The number that a number is read as stands before a power or not. -/
theorem outcome_number {value : Float} (suffix : ⟨.number value, place⟩ :: rest <:+ input.tokens)
    (depth : Nat) :
    (input.operand).outcome (input.before (⟨.number value, place⟩ :: rest) depth) =
      (if signsPower value rest then do
          enter input place
          let magnitude ← input.operators (.literal (-value)) signPower
          leave
          return .negate magnitude
        else return .literal value : Step Expr).outcome (input.before rest depth) := by
  rw [Input.operand, Steps.outcome_bind_of_ok (next_cons suffix depth)]
  dsimp only
  rw [Steps.outcome_bind_of_ok (nextIs_caret ((List.suffix_cons _ _).trans suffix) depth)]
  rfl

/-- A parser does what a run says, and counts along. -/
theorem outcome_of_run {task : Task}
    (run : Run input.limits (finish input.tokens) task depth rest reading)
    (ready : Ready input task depth rest) :
    (perform input task).outcome (input.start rest depth task) =
      some (input.result depth reading) := by
  induction run with
  | operandMissing =>
    simp only [perform, Input.start]
    rw [Input.operand, Steps.outcome_bind_of_ok (next_nil _)]
    rfl
  | number unsigned =>
    simp only [perform, Input.start]
    rw [outcome_number ready.suffix, unsigned]
    rfl
  | signedPowerDeep signed deep =>
    simp only [perform, Input.start]
    rw [outcome_number ready.suffix, signed]
    exact Steps.outcome_bind_of_error (enter_deep ready.room deep)
  | signedPower signed room _ ih =>
    have inner := ih (ready.enter ⟨_, rfl, ready.suffix⟩ (Nat.zero_le _))
    simp only [perform, Input.start] at inner ⊢
    rw [outcome_number ready.suffix, signed, if_pos rfl,
      Steps.outcome_bind_of_ok (enter_low ready.room room)]
    refine outcome_leave .negate ?_
    rw [outcome_operators ⟨_, rfl, ready.suffix⟩ (Nat.zero_le _)]
    exact inner
  | negate _ ih =>
    have inner := ih (ready.enter trivial (Nat.le_add_left 1 _))
    simp only [perform, Input.start] at inner ⊢
    rw [Input.operand, Steps.outcome_bind_of_ok (next_cons ready.suffix _)]
    dsimp only
    rw [← bind_assoc]
    exact outcome_leave .negate inner
  | @group _ opening _ reading run ih =>
    have within : Ready input (.nested opening 0) _ _ :=
      ready.enter trivial (Nat.le_add_left 1 _)
    have inner := ih within
    simp only [perform, Input.start] at inner ⊢
    rw [Input.operand, Steps.outcome_bind_of_ok (next_cons ready.suffix _)]
    dsimp only
    rw [← bind_assoc, ← (reading.close _ _).map_id]
    exact outcome_close id (run.placed within.suffix trivial) inner
  | @stray _ sign _ _ notMinus notOpen =>
    simp only [perform, Input.start]
    rw [Input.operand, Steps.outcome_bind_of_ok (next_cons ready.suffix _)]
    cases sign with
    | minus => exact absurd rfl notMinus
    | openParen => exact absurd rfl notOpen
    | _ => rfl
  | @call _ name place opening _ reading run ih =>
    have passed : Ready input .operand _ _ := ready.step trivial (Nat.zero_le _)
    have within : Ready input (.nested opening 0) _ _ :=
      passed.enter trivial (Nat.le_add_left 1 _)
    have inner := ih within
    simp only [perform, Input.start] at inner ⊢
    rw [Input.operand, Steps.outcome_bind_of_ok (next_cons ready.suffix _)]
    dsimp only
    rw [Steps.outcome_bind_of_ok (next_cons passed.suffix _)]
    dsimp only
    rw [if_pos rfl, ← bind_assoc]
    exact outcome_close (.call name) (run.placed within.suffix trivial) inner
  | callEnds =>
    simp only [perform, Input.start]
    rw [Input.operand, Steps.outcome_bind_of_ok (next_cons ready.suffix _)]
    dsimp only
    rw [Steps.outcome_bind_of_ok (next_nil _)]
    rfl
  | callUnopened notOpen =>
    have passed : Ready input .operand _ _ := ready.step trivial (Nat.zero_le _)
    simp only [perform, Input.start]
    rw [Input.operand, Steps.outcome_bind_of_ok (next_cons ready.suffix _)]
    dsimp only
    rw [Steps.outcome_bind_of_ok (next_cons passed.suffix _)]
    dsimp only
    rw [if_neg notOpen]
    rfl
  | operandFailed _ ih =>
    have first := ih (ready.turn trivial (Nat.zero_le _))
    simp only [perform, Input.start] at first ⊢
    rw [Input.expression]
    exact Steps.outcome_bind_of_error first
  | operandTall run tall ih =>
    have first := ih (ready.turn trivial (Nat.zero_le _))
    have behind : Behind input.tokens _ _ := run.placed ready.suffix trivial
    simp only [perform, Input.start] at first ⊢
    rw [Input.expression, Steps.outcome_bind_of_ok first, Input.operators]
    refine (Steps.outcome_bind_of_ok (previousSpan_before behind _)).trans ?_
    exact Steps.outcome_bind_of_error (checkHeight_tall tall _ _)
  | expression run low _ ihFirst ihMore =>
    have first := ihFirst (ready.turn trivial (Nat.zero_le _))
    have behind : Behind input.tokens _ _ := run.placed ready.suffix trivial
    have more := ihMore (ready.behind behind run.passes.length_le behind (Nat.zero_le _))
    simp only [perform, Input.start] at first more ⊢
    rw [Input.expression, Steps.outcome_bind_of_ok first]
    exact (outcome_operators behind low).trans more
  | @nestedDeep opening power depth tokens deep =>
    obtain ⟨outer, rfl⟩ := Nat.exists_eq_add_of_le' ready.opened
    simp only [perform, Input.start]
    exact Steps.outcome_bind_of_error (enter_deep ready.opens deep)
  | @nested opening power depth tokens reading room _ ih =>
    obtain ⟨outer, rfl⟩ := Nat.exists_eq_add_of_le' ready.opened
    have inner := ih (ready.turn trivial (Nat.zero_le _))
    simp only [perform, Input.start] at inner ⊢
    exact (Steps.outcome_bind_of_ok (enter_low ready.opens room)).trans inner
  | stop stops =>
    simp only [perform, Input.start]
    exact outcome_stop ready.suffix stops _
  | rightFailed operator binds _ ih =>
    have right := ih (ready.right _)
    simp only [perform, Input.start] at right ⊢
    rw [outcome_extend ready.suffix operator binds]
    exact Steps.outcome_bind_of_error (outcome_right right)
  | rightTall operator binds _ tall ih =>
    have right := ih (ready.right _)
    simp only [perform, Input.start] at right ⊢
    rw [outcome_extend ready.suffix operator binds]
    refine (Steps.outcome_bind_of_ok (outcome_right right)).trans ?_
    exact Steps.outcome_bind_of_error (checkHeight_tall tall _ _)
  | extend operator binds run low _ ihRight ihMore =>
    have right := ihRight (ready.right _)
    have suffix := (List.suffix_cons _ _).trans ready.suffix
    have behind : Behind input.tokens _ _ := run.placed suffix (Task.placed_right _ _)
    have shorter := Nat.le_succ_of_le run.passes.length_le
    have more := ihMore (ready.behind behind shorter behind (Nat.zero_le _))
    simp only [perform, Input.start] at right more ⊢
    rw [outcome_extend ready.suffix operator binds]
    refine (Steps.outcome_bind_of_ok (outcome_right right)).trans ?_
    exact (Steps.outcome_bind_of_ok (checkHeight_low low _ _)).trans more

/-- The parser answers as a session does, and goes on as it does: with the tokens that it leaves and
the levels that are open. -/
theorem outcome_parse (input : Input) {session : Session}
    (passed : Session.Of input.tokens session) :
    (parse input).outcome (input.before session.rest session.depth) =
      some ((session.parse input.limits (finish input.tokens)).1,
        input.before (session.parse input.limits (finish input.tokens)).2.rest
          (session.parse input.limits (finish input.tokens)).2.depth) := by
  obtain ⟨reading, run, read⟩ :=
    Session.exists_reading input.limits (finish input.tokens) session
  have paid := passed.paid
  obtain ⟨used, split, -⟩ := passed
  have suffix : session.rest <:+ input.tokens := ⟨used, split.symm⟩
  have outcome := outcome_of_run run ⟨suffix, trivial, Nat.zero_le _, paid⟩
  have placed : reading.Placed input.tokens := run.placed suffix trivial
  simp only [perform, Input.start] at outcome
  rw [read]
  unfold parse
  rcases reading with ⟨tree, last, _ | ⟨token, rest⟩⟩ | ⟨fault, depth, rest⟩
  · rw [Steps.outcome_bind_of_ok outcome, Steps.outcome_bind_of_ok (next_nil _)]
    rfl
  · rw [Steps.outcome_bind_of_ok outcome,
      Steps.outcome_bind_of_ok (next_cons (Behind.suffix placed) _)]
    rfl
  · exact Steps.outcome_bind_of_error outcome

end Parser

end Calculator
