import Calculator.Proofs.Parse.Counters

/-! # A parser that is called again and again

However often a parser is called, it goes on like a new one on what is left. A level that a fault
left open stays open, and the limit on levels is smaller for it; a whole expression leaves open what
it found open. As levels are paid for with tokens, there is room for them in the counter.
-/

namespace Calculator

open Parse

variable {input : Parser.Input} {parser : Parser} {tokens rest : List Token} {depth : Nat}
  {task : Task} {session : Session}

/-- Whatever a parser needs for a call, it has for the calls that are made on the way. -/
theorem Parse.Call.Makes.ready {outer inner : Call}
    (makes : Makes input.limits (finish input.tokens) outer inner)
    (ready : Parser.Ready input outer.task outer.session.depth outer.session.rest) :
    Parser.Ready input inner.task inner.session.depth inner.session.rest := by
  cases makes with
  | signedPower => exact ready.enter ⟨_, rfl, ready.suffix⟩ (Nat.zero_le _)
  | negate | group => exact ready.enter trivial (Nat.le_add_left 1 _)
  | call =>
    have passed : Parser.Ready input .operand _ _ := ready.step trivial (Nat.zero_le _)
    exact passed.enter trivial (Nat.le_add_left 1 _)
  | first | nested => exact ready.turn trivial (Nat.zero_le _)
  | more run =>
    have behind : Behind input.tokens _ _ := run.placed ready.suffix trivial
    exact ready.behind behind run.passes.length_le behind (Nat.zero_le _)
  | right => exact ready.right _
  | again _ _ run =>
    have suffix := (List.suffix_cons _ _).trans ready.suffix
    have behind : Behind input.tokens _ _ := run.placed suffix (Task.placed_right _ _)
    exact ready.behind behind (Nat.le_succ_of_le run.passes.length_le) behind (Nat.zero_le _)

namespace Parser

/-- A task is carried out to its end. If there is a tree in the end, every level that was opened has
been closed; after a fault the levels that are still open have been paid for. -/
theorem Ready.returns (ready : Ready input task depth rest) :
    ∃ answer later, (perform input task).outcome (input.start rest depth task) =
      some (answer, later) ∧ depth ≤ later.depth ∧ later.depth ≤ later.cursor ∧
        ∀ tree, answer = .ok tree → later.depth = depth := by
  have run : Run input.limits (finish input.tokens) task depth rest
      (task.read input.limits (finish input.tokens) depth rest) := task.run_read depth rest
  have outcome := outcome_of_run run ready
  have paid := ready.paid
  have passes := run.passes
  generalize task.read input.limits (finish input.tokens) depth rest = reading at *
  cases reading with
  | done tree last left =>
    have shorter : left.length ≤ rest.length := passes.length_le
    refine ⟨_, _, outcome, Nat.le_refl _, ?_, fun _ _ => rfl⟩
    change depth ≤ input.tokens.length - left.length
    omega
  | failed fault level left =>
    have follows := passes.1.paid
    refine ⟨_, _, outcome, passes.1.above, ?_, fun tree same => by cases same⟩
    change level ≤ input.tokens.length - left.length
    dsimp only at follows
    omega

/-- What is left of the tokens for a new parser, which has as many levels less as are open. -/
def Input.left (input : Input) (parser : Parser) : Input where
  tokens := input.tokens.drop parser.cursor
  limits := input.limits.lower parser.depth
  top := input.top
  fits := by
    rw [List.length_drop]
    exact Nat.le_trans (Nat.sub_le _ _) input.fits

/-- The parser after as many calls, if every one of them returns. -/
def after (input : Input) : Nat → Option Parser
  | 0 => some new
  | calls + 1 => (after input calls).bind fun parser =>
    ((parse input).outcome parser).map Prod.snd

/-- How a parser carries out a call that it makes on the way. -/
structure Carries (input : Input) (parser : Parser) (call : Call) : Prop where
  /-- No level is closed that was open before, and there are no more levels than tokens passed. -/
  counted : parser.depth ≤ call.session.depth ∧ call.session.depth ≤
    (input.start call.session.rest call.session.depth call.task).cursor
  /-- The call returns, on the level on which it was made if it returns a tree. -/
  returns : ∃ answer later, (perform input call.task).outcome
    (input.start call.session.rest call.session.depth call.task) = some (answer, later) ∧
      call.session.depth ≤ later.depth ∧ later.depth ≤ later.cursor ∧
      ∀ tree, answer = .ok tree → later.depth = call.session.depth

/-- How a call of a parser goes on from where the parser stands. -/
structure Resumes (input : Input) (parser : Parser) (answer : Except ParseFault Expr)
    (later : Parser) : Prop where
  /-- The call returns: no counter is raised too far or lowered below zero. -/
  returns : (parse input).outcome parser = some (answer, later)
  /-- The cursor does not go back, and it does not pass the end. -/
  forward : parser.cursor ≤ later.cursor ∧ later.cursor ≤ input.tokens.length
  /-- At most as many levels are open as tokens were passed. -/
  counted : parser.depth ≤ parser.cursor ∧ later.depth ≤ later.cursor
  /-- So it is with every call that is made on the way. -/
  within : ∀ call, Relation.ReflTransGen (Call.Makes input.limits (finish input.tokens))
    ⟨.expression 0, input.tokens.drop parser.cursor, parser.depth⟩ call →
      Carries input parser call
  /-- At the end there is nothing to read, and nothing changes. -/
  ended : parser.cursor = input.tokens.length →
    answer = .error (.unexpectedEnd .operand (finish input.tokens)) ∧ later = parser
  /-- Before the end a token is passed at least. -/
  advances : parser.cursor < input.tokens.length → parser.cursor < later.cursor
  /-- No level is closed that was open before. -/
  leaves : parser.depth ≤ later.depth
  /-- No level is left open by a whole expression. -/
  settles : Session.Whole answer → later.depth = parser.depth
  /-- The answer is that of a new parser with fewer levels. -/
  fresh : parser.cursor < input.tokens.length → ∃ last,
    (parse (input.left parser)).outcome new = some (answer.mapError (.lower parser.depth), last)

theorem drop_before (suffix : rest <:+ input.tokens) (depth : Nat) :
    input.tokens.drop (input.before rest depth).cursor = rest := by
  obtain ⟨used, split⟩ := suffix
  rw [Input.before, ← split, List.length_append, Nat.add_sub_cancel, List.drop_left]

theorem cursor_lt_iff (suffix : rest <:+ input.tokens) (depth : Nat) :
    (input.before rest depth).cursor < input.tokens.length ↔ rest ≠ [] := by
  have short := suffix.length_le
  rw [← List.length_pos_iff]
  change input.tokens.length - rest.length < input.tokens.length ↔ _
  omega

theorem before_all (input : Input) : input.before input.tokens 0 = new := by
  rw [Input.before, Nat.sub_self, new]

/-- A new parser answers what is answered for the tokens. -/
theorem outcome_new (input : Input) :
    ∃ last, (parse input).outcome new =
      some (Calculator.parse input.limits input.tokens, last) := by
  rw [← before_all input]
  exact ⟨_, outcome_parse input (Session.of_new input.tokens)⟩

/-- A parser that stands where a session does goes on as the session does. -/
theorem resumes_parse (passed : Session.Of input.tokens session) :
    Resumes input (input.before session.rest session.depth)
      (session.parse input.limits (finish input.tokens)).1
      (input.before (session.parse input.limits (finish input.tokens)).2.rest
        (session.parse input.limits (finish input.tokens)).2.depth) := by
  have follows := Session.follows_parse input.limits (finish input.tokens) session
  have paid := passed.paid
  have paid' := (passed.forward follows).paid
  have suffix : session.rest <:+ input.tokens := by
    obtain ⟨used, split, -⟩ := passed
    exact ⟨used, split.symm⟩
  have drop := drop_before suffix session.depth
  have short := follows.suffix.length_le
  refine ⟨outcome_parse input passed, ⟨?_, Nat.sub_le _ _⟩, ⟨?_, ?_⟩, fun call inside => ?_,
    fun ends => ?_, fun goes => ?_, follows.above, Session.depth_parse, fun goes => ?_⟩
  · exact Nat.sub_le_sub_left short _
  · exact Nat.le_sub_of_add_le paid
  · exact Nat.le_sub_of_add_le paid'
  · rw [drop] at inside
    have ready : Ready input call.task call.session.depth call.session.rest := by
      clear follows short paid'
      induction inside with
      | refl => exact ⟨suffix, trivial, Nat.zero_le _, paid⟩
      | tail _ makes ih => exact makes.ready ih
    refine ⟨⟨(Call.follows_of_makes inside).above, ?_⟩, ready.returns⟩
    cases task : call.task <;> exact Nat.le_sub_of_add_le ready.paid
  · have empty : session.rest = [] := by
      by_contra nonempty
      exact absurd ends (Nat.ne_of_lt ((cursor_lt_iff suffix session.depth).mpr nonempty))
    rw [Session.parse_of_nil _ _ empty]
    exact ⟨rfl, rfl⟩
  · have nonempty := (cursor_lt_iff suffix session.depth).mp goes
    have fewer := Session.length_parse_lt input.limits (finish input.tokens) nonempty
    exact Nat.sub_lt_sub_left (Nat.lt_of_lt_of_le fewer suffix.length_le) fewer
  · have nonempty := (cursor_lt_iff suffix session.depth).mp goes
    obtain ⟨last, fresh⟩ := outcome_new (input.left (input.before session.rest session.depth))
    refine ⟨last, fresh.trans (congrArg (fun answer => some (answer, last)) ?_)⟩
    calc Calculator.parse (input.limits.lower session.depth) (input.tokens.drop _)
      _ = Calculator.parse (input.limits.lower session.depth) session.rest := by rw [drop]
      _ = _ := Session.parse_fresh input.limits passed nonempty

/-- After as many calls a parser stands where a session does. -/
theorem after_eq (input : Input) (calls : Nat) :
    after input calls = some (input.before (Session.after input.limits input.tokens calls).rest
      (Session.after input.limits input.tokens calls).depth) := by
  induction calls with
  | zero => exact congrArg some (before_all input).symm
  | succ calls ih =>
    rw [after, ih, Option.bind_some, outcome_parse input (Session.of_after ..)]
    rfl

/-- However often a parser is called, each call goes on like a new parser on what is left. -/
theorem resumes_after (input : Input) (calls : Nat) :
    ∃ parser answer later, after input calls = some parser ∧
      after input (calls + 1) = some later ∧ Resumes input parser answer later :=
  ⟨_, _, _, after_eq input calls, after_eq input (calls + 1),
    resumes_parse (Session.of_after input.limits input.tokens calls)⟩

example :
    let token (sign : Symbol) (start : Nat) : Token := ⟨.symbol sign, ⟨start, start + 1⟩⟩
    let tokens := [token .openParen 0, token .openParen 1, token .closeParen 2, token .minus 3,
      ⟨.number 1, ⟨4, 5⟩⟩]
    let input : Input := ⟨tokens, {}, 5, Nat.le_refl 5⟩
    after input 1 = some ⟨3, 2⟩ ∧ after input 2 = some ⟨5, 2⟩ ∧ after input 3 = some ⟨5, 2⟩ := by
  simp only [after_eq]
  decide +kernel

end Parser

end Calculator
