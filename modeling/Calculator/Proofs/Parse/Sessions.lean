import Calculator.Proofs.Parse.Lookahead
import Mathlib.Logic.Relation

/-! # A parser that is used again

A parser goes on behind the token at which its last reading failed, with the levels still open that
the fault left open. Every level that is opened costs a token, so that the levels never outnumber
the tokens passed. A parser with open levels reads what is left like a new one, one whose limit on
levels is smaller by as many.
-/

namespace Calculator

/-- Whether a fault lies inside an expression, not in a token behind it. -/
def ParseFault.Inside : ParseFault → Prop
  | unmatchedParenthesis _ | trailingInput .. => False
  | _ => True

/-- The fault under a limit on levels that is smaller by `levels`. -/
def ParseFault.lower (levels : Nat) : ParseFault → ParseFault
  | tooComplex maxDepth span => tooComplex (maxDepth - levels) span
  | fault => fault

/-- The limits with `levels` levels less. -/
def Limits.lower (limits : Limits) (levels : Nat) : Limits :=
  limits.set (.maxDepth (limits.maxDepth - levels))

namespace Parse

variable {limits : Limits} {finish : Span} {task : Task} {depth levels : Nat}
  {tokens rest : List Token} {reading : Reading}

/-- One session goes on from another: it has the last of its tokens, no level less, and at most one
level more for each token passed. -/
structure Session.Follows (later session : Session) : Prop where
  suffix : later.rest <:+ session.rest
  above : session.depth ≤ later.depth
  paid : later.depth + later.rest.length ≤ session.depth + session.rest.length

namespace Session.Follows

theorem trans {first second third : Session} (later : third.Follows second)
    (earlier : second.Follows first) : third.Follows first :=
  ⟨later.suffix.trans earlier.suffix, Nat.le_trans earlier.above later.above,
    Nat.le_trans later.paid earlier.paid⟩

theorem of_suffix (suffix : rest <:+ tokens) : Follows ⟨rest, depth⟩ ⟨tokens, depth⟩ :=
  ⟨suffix, Nat.le_refl _, Nat.add_le_add_left suffix.length_le _⟩

/-- A level costs the token that opens it. -/
theorem of_token {level : Nat} (token : Token) (above : depth ≤ level) (next : level ≤ depth + 1) :
    Follows ⟨rest, level⟩ ⟨token :: rest, depth⟩ :=
  ⟨List.suffix_cons token rest, above, by simp only [List.length_cons]; omega⟩

theorem enter (token : Token) : Follows ⟨rest, depth + 1⟩ ⟨token :: rest, depth⟩ :=
  of_token token (Nat.le_succ _) (Nat.le_refl _)

theorem step (token : Token) : Follows ⟨rest, depth⟩ ⟨token :: rest, depth⟩ :=
  of_token token (Nat.le_refl _) (Nat.le_succ _)

end Session.Follows

open Session (Follows)

/-- A reading of some tokens leaves the last of them; a fault in it closes no level that was open
before, and opens at most one for each token passed. -/
def Reading.Passes (session : Session) : Reading → Prop
  | done _ _ rest => rest <:+ session.rest
  | failed fault depth rest => Follows ⟨rest, depth⟩ session ∧ fault.Inside

namespace Reading.Passes

variable {session later : Session}

theorem widen (passes : reading.Passes later) (follows : later.Follows session) :
    reading.Passes session := by
  cases reading with
  | done tree last left => exact passes.trans follows.suffix
  | failed fault depth left => exact ⟨passes.1.trans follows, passes.2⟩

theorem map (passes : reading.Passes session) (change : Expr → Expr) :
    (reading.map change).Passes session := by
  cases reading <;> exact passes

theorem close (passes : reading.Passes ⟨tokens, depth⟩) (opening : Span) :
    (reading.close opening depth).Passes ⟨tokens, depth⟩ := by
  rcases reading with ⟨tree, last, _ | ⟨token, left⟩⟩ | ⟨fault, depth', left⟩
  · exact ⟨.of_suffix passes, trivial⟩
  · have suffix : left <:+ tokens := (List.suffix_cons token left).trans passes
    by_cases closes : token.lexeme = .symbol .closeParen
    · rw [Reading.close, if_pos closes]
      exact suffix
    · rw [close_other closes]
      exact ⟨.of_suffix suffix, trivial⟩
  · exact passes

end Reading.Passes

theorem le_rightDepth (op : BinaryOp) (depth : Nat) : depth ≤ rightDepth op depth := by
  unfold rightDepth
  split <;> omega

/-- The right side of an operator is read behind it, and only an exponent on a new level. -/
theorem follows_right (op : BinaryOp) (token : Token) :
    Follows ⟨rest, rightDepth op depth⟩ ⟨token :: rest, depth⟩ :=
  .of_token token (le_rightDepth op depth) (rightDepth_le op depth)

/-- Every run passes tokens and pays with them for the levels it opens. -/
theorem Run.passes (run : Run limits finish task depth tokens reading) :
    reading.Passes ⟨tokens, depth⟩ := by
  induction run with
  | operandMissing | nestedDeep => exact ⟨.of_suffix List.suffix_rfl, trivial⟩
  | number => exact List.suffix_cons _ _
  | signedPowerDeep => exact ⟨.enter _, trivial⟩
  | signedPower _ _ _ ih => exact (ih.widen (.enter _)).map _
  | negate _ ih => exact (ih.widen (.enter _)).map _
  | group _ ih => exact (ih.close _).widen (.enter _)
  | stray => exact ⟨.step _, trivial⟩
  | call _ ih => exact ((ih.close _).map _).widen ((Follows.enter _).trans (.step _))
  | callEnds => exact ⟨.of_suffix List.nil_suffix, trivial⟩
  | callUnopened => exact ⟨(Follows.step _).trans (.step _), trivial⟩
  | operandFailed _ ih | nested _ _ ih => exact ih
  | operandTall _ _ ih => exact ⟨.of_suffix ih, trivial⟩
  | expression _ _ _ ihFirst ihMore => exact ihMore.widen (.of_suffix ihFirst)
  | stop => exact List.suffix_rfl
  | rightFailed _ _ _ ih => exact ih.widen (follows_right _ _)
  | rightTall _ _ _ _ ih => exact ⟨.of_suffix (ih.trans (List.suffix_cons _ _)), trivial⟩
  | extend _ _ _ _ _ ihRight ihMore =>
    exact ihMore.widen (.of_suffix (ihRight.trans (List.suffix_cons _ _)))

/-- The tokens that a reading leaves. -/
def Reading.left : Reading → List Token
  | done _ _ rest => rest
  | failed _ _ rest => rest

theorem Reading.Passes.suffix {session : Session} (passes : reading.Passes session) :
    reading.left <:+ session.rest := by
  cases reading with
  | done tree last rest => exact passes
  | failed fault depth rest => exact passes.1.suffix

/-- An operand takes the first token, whatever becomes of it. -/
theorem Run.takes_operand {token : Token}
    (run : Run limits finish .operand depth (token :: tokens) reading) :
    reading.left <:+ tokens := by
  cases run with
  | number | signedPowerDeep | stray | callEnds => exact List.suffix_rfl
  | callUnopened => exact List.suffix_cons _ _
  | signedPower _ _ power => exact (power.passes.map _).suffix
  | negate inner => exact (inner.passes.map _).suffix
  | group inner => exact (inner.passes.close _).suffix
  | call inner => exact ((inner.passes.close _).map _).suffix.trans (List.suffix_cons _ _)

/-- An expression takes the first token, whatever becomes of it. -/
theorem Run.takes_expression {token : Token} {power : Nat}
    (run : Run limits finish (.expression power) depth (token :: tokens) reading) :
    reading.left <:+ tokens := by
  cases run with
  | operandFailed first => exact first.takes_operand
  | operandTall first => exact first.takes_operand
  | expression first _ more => exact more.passes.suffix.trans first.takes_operand

/-- A call of the parser: its task, and the tokens ahead with the levels that are open. -/
structure Call where
  task : Task
  session : Session

/-- The calls that a call makes before it returns. -/
inductive Call.Makes (limits : Limits) (finish : Span) : Call → Call → Prop
  | signedPower {depth value place rest} (signed : signsPower value rest = true)
      (room : depth + 1 ≤ limits.maxDepth) :
    Makes limits finish ⟨.operand, ⟨.number value, place⟩ :: rest, depth⟩
      ⟨.extend signPower (.literal (-value)) place, rest, depth + 1⟩
  | negate {depth place rest} :
    Makes limits finish ⟨.operand, ⟨.symbol .minus, place⟩ :: rest, depth⟩
      ⟨.nested place signPower, rest, depth + 1⟩
  | group {depth opening rest} :
    Makes limits finish ⟨.operand, ⟨.symbol .openParen, opening⟩ :: rest, depth⟩
      ⟨.nested opening 0, rest, depth + 1⟩
  | call {depth name place opening rest} :
    Makes limits finish
      ⟨.operand, ⟨.function name, place⟩ :: ⟨.symbol .openParen, opening⟩ :: rest, depth⟩
      ⟨.nested opening 0, rest, depth + 1⟩
  | first {power depth tokens} :
    Makes limits finish ⟨.expression power, tokens, depth⟩ ⟨.operand, tokens, depth⟩
  | more {power depth tokens lhs last rest}
      (first : Run limits finish .operand depth tokens (.done lhs last rest))
      (low : lhs.height ≤ limits.maxHeight) :
    Makes limits finish ⟨.expression power, tokens, depth⟩ ⟨.extend power lhs last, rest, depth⟩
  | nested {opening power depth tokens} (room : depth ≤ limits.maxDepth) :
    Makes limits finish ⟨.nested opening power, tokens, depth⟩ ⟨.expression power, tokens, depth⟩
  | right {power lhs last depth token rest op} (operator : token.lexeme.operator? = some op)
      (binds : power ≤ op.leftPower) :
    Makes limits finish ⟨.extend power lhs last, token :: rest, depth⟩
      ⟨.right op token.span, rest, rightDepth op depth⟩
  | again {power lhs last depth token rest op rhs last' after}
      (operator : token.lexeme.operator? = some op) (binds : power ≤ op.leftPower)
      (right : Run limits finish (.right op token.span) (rightDepth op depth) rest
        (.done rhs last' after))
      (low : (Expr.binary op lhs rhs).height ≤ limits.maxHeight) :
    Makes limits finish ⟨.extend power lhs last, token :: rest, depth⟩
      ⟨.extend power (.binary op lhs rhs) last', after, depth⟩

/-- What one call does to the tokens and levels before it makes another one. -/
theorem Call.Makes.follows {outer inner : Call} (makes : Makes limits finish outer inner) :
    inner.session.Follows outer.session := by
  cases makes with
  | signedPower | negate | group => exact .enter _
  | call => exact (Follows.enter _).trans (.step _)
  | first | nested => exact .of_suffix List.suffix_rfl
  | more first => exact .of_suffix first.passes
  | right => exact follows_right _ _
  | again _ _ right => exact .of_suffix (right.passes.suffix.trans (List.suffix_cons _ _))

/-- What the calls in between do. -/
theorem Call.follows_of_makes {outer inner : Call}
    (inside : Relation.ReflTransGen (Makes limits finish) outer inner) :
    inner.session.Follows outer.session := by
  induction inside with
  | refl => exact .of_suffix List.suffix_rfl
  | tail _ makes ih => exact makes.follows.trans ih

/-- What is read with `levels` levels less. -/
def Reading.lower (levels : Nat) : Reading → Reading
  | done tree last rest => done tree last rest
  | failed fault depth rest => failed (fault.lower levels) (depth - levels) rest

theorem Reading.lower_map (reading : Reading) (change : Expr → Expr) :
    (reading.map change).lower levels = (reading.lower levels).map change := by
  cases reading <;> rfl

theorem Reading.lower_close (reading : Reading) (opening : Span) (depth : Nat) :
    (reading.close opening depth).lower levels =
      (reading.lower levels).close opening (depth - levels) := by
  rcases reading with ⟨tree, last, _ | ⟨token, rest⟩⟩ | ⟨fault, level, rest⟩
  · rfl
  · by_cases closes : token.lexeme = .symbol .closeParen
    · simp only [close, closes, ↓reduceIte, lower]
    · rw [close_other closes, lower, lower, close_other closes]
      rfl
  · rfl

/-- The levels that a task has opened itself. -/
def Task.entered : Task → Nat
  | nested .. => 1
  | _ => 0

theorem open_sub (low : levels + task.entered ≤ depth) :
    depth + 1 - levels = depth - levels + 1 :=
  Nat.sub_add_comm (Nat.le_of_add_right_le low)

/-- One level more is too deep or not, as before, with as many levels less. -/
theorem deep_lower (low : levels + task.entered ≤ depth) :
    (limits.lower levels).maxDepth < depth - levels + 1 ↔ limits.maxDepth < depth + 1 := by
  change limits.maxDepth - levels < depth - levels + 1 ↔ _
  omega

/-- A level that is open is too deep or not, as before, with as many levels less. -/
theorem deep_lower_nested (low : levels < depth) :
    (limits.lower levels).maxDepth < depth - levels ↔ limits.maxDepth < depth := by
  change limits.maxDepth - levels < depth - levels ↔ _
  omega

theorem entered_right (op : BinaryOp) (place : Span) (low : levels + task.entered ≤ depth) :
    levels + (Task.right op place).entered ≤ rightDepth op depth := by
  have low := Nat.le_of_add_right_le low
  unfold Task.right rightDepth
  split
  · exact Nat.succ_le_succ low
  · exact low

theorem rightDepth_sub (op : BinaryOp) (low : levels + task.entered ≤ depth) :
    rightDepth op depth - levels = rightDepth op (depth - levels) := by
  unfold rightDepth
  split
  · exact open_sub low
  · rfl

/-- Levels that were open before a task only make its limit smaller. -/
theorem Run.lower (run : Run limits finish task depth tokens reading)
    (before : levels + task.entered ≤ depth) :
    Run (limits.lower levels) finish task (depth - levels) tokens (reading.lower levels) := by
  -- The levels taken away stay open all through the run, so that no subtraction is cut off at 0; a
  -- nested task finds its own level open already, and that one is not among them.
  induction run with
  | operandMissing => exact .operandMissing
  | number unsigned => exact .number unsigned
  | stray notMinus notOpen => exact .stray notMinus notOpen
  | callEnds => exact .callEnds
  | callUnopened notOpen => exact .callUnopened notOpen
  | stop stops => exact .stop stops
  | signedPowerDeep signed deep =>
    rw [Reading.lower, open_sub before]
    exact .signedPowerDeep signed ((deep_lower before).mpr deep)
  | signedPower signed room _ ih =>
    have power := ih (Nat.le_succ_of_le before)
    rw [open_sub before] at power
    rw [Reading.lower_map]
    exact .signedPower signed
      (Nat.not_lt.mp (mt (deep_lower before).mp (Nat.not_lt.mpr room))) power
  | negate _ ih =>
    have inner := ih (Nat.succ_le_succ before)
    rw [open_sub before] at inner
    rw [Reading.lower_map]
    exact .negate inner
  | group _ ih =>
    have inner := ih (Nat.succ_le_succ before)
    rw [open_sub before] at inner
    rw [Reading.lower_close, open_sub before]
    exact .group inner
  | call _ ih =>
    have inner := ih (Nat.succ_le_succ before)
    rw [open_sub before] at inner
    rw [Reading.lower_map, Reading.lower_close, open_sub before]
    exact .call inner
  | operandFailed _ ih => exact .operandFailed (ih before)
  | operandTall _ tall ih => exact .operandTall (ih before) tall
  | expression _ low _ ihFirst ihMore => exact .expression (ihFirst before) low (ihMore before)
  | nestedDeep deep => exact .nestedDeep ((deep_lower_nested before).mpr deep)
  | nested room _ ih =>
    exact .nested (Nat.not_lt.mp (mt (deep_lower_nested before).mp (Nat.not_lt.mpr room)))
      (ih (Nat.le_of_succ_le before))
  | @rightFailed _ _ _ depth token _ op _ _ _ operator binds _ ih =>
    have right := ih (entered_right op token.span before)
    rw [rightDepth_sub op before] at right
    exact .rightFailed operator binds right
  | @rightTall _ _ _ depth token _ op _ _ _ operator binds _ tall ih =>
    have right := ih (entered_right op token.span before)
    rw [rightDepth_sub op before] at right
    exact .rightTall operator binds right tall
  | @extend _ _ _ depth token _ op _ _ _ _ operator binds _ low _ ihRight ihMore =>
    have right := ihRight (entered_right op token.span before)
    rw [rightDepth_sub op before] at right
    exact .extend operator binds right low (ihMore before)

theorem surplus_lower (token : Token) : (surplus token).lower levels = surplus token := by
  unfold surplus
  split <;> rfl

theorem Reading.verdict_lower (reading : Reading) :
    (reading.lower levels).verdict = reading.verdict.mapError (ParseFault.lower levels) := by
  rcases reading with ⟨tree, last, _ | ⟨token, rest⟩⟩ | ⟨fault, depth, rest⟩
  · rfl
  · exact congrArg Except.error (surplus_lower token).symm
  · rfl

theorem finish_append {used : List Token} (some : rest ≠ []) :
    Parse.finish (used ++ rest) = Parse.finish rest := by
  rw [Parse.finish, Parse.finish, List.getLast?_append_of_ne_nil _ some]

/-- The session after a reading that started with `depth` levels open. -/
def Reading.session (depth : Nat) : Reading → Session
  | failed _ depth' rest => ⟨rest, depth'⟩
  | done _ _ rest => ⟨rest.tail, depth⟩

theorem Reading.session_suffix (reading : Reading) (depth : Nat) :
    (reading.session depth).rest <:+ reading.left := by
  cases reading with
  | done tree last rest => exact List.tail_suffix rest
  | failed fault depth' rest => exact List.suffix_rfl

theorem Reading.Passes.follows (passes : reading.Passes ⟨tokens, depth⟩) :
    (reading.session depth).Follows ⟨tokens, depth⟩ := by
  cases reading with
  | done tree last rest => exact .of_suffix ((List.tail_suffix rest).trans passes)
  | failed fault depth' rest => exact passes.1

namespace Session

variable {session later : Session}

/-- The session of a parser on some tokens after as many calls. -/
def after (limits : Limits) (tokens : List Token) : Nat → Session
  | 0 => ⟨tokens, 0⟩
  | calls + 1 => ((after limits tokens calls).parse limits (Parse.finish tokens)).2

/-- Whether an answer is a tree or the fault of a token behind it. -/
def Whole : Except ParseFault Expr → Prop
  | .ok _ => True
  | .error fault => ¬ fault.Inside

/-- What is left of some tokens, with no more levels open than tokens passed. -/
def Of (tokens : List Token) (session : Session) : Prop :=
  ∃ used, tokens = used ++ session.rest ∧ session.depth ≤ used.length

/-- The tokens that are left could pay for levels, too. -/
theorem Of.paid (passed : Of tokens session) :
    session.depth + session.rest.length ≤ tokens.length := by
  obtain ⟨used, split, bound⟩ := passed
  rw [split, List.length_append]
  exact Nat.add_le_add_right bound _

theorem of_new (tokens : List Token) : Of tokens ⟨tokens, 0⟩ := ⟨[], rfl, Nat.le_refl 0⟩

/-- Tokens passed pay for the levels that are opened. -/
theorem Of.forward (passed : Of tokens session) (follows : later.Follows session) :
    Of tokens later := by
  obtain ⟨used, split, bound⟩ := passed
  obtain ⟨⟨taken, left⟩, -, paid⟩ := follows
  have length := congrArg List.length left
  rw [List.length_append] at length
  refine ⟨used ++ taken, by rw [List.append_assoc, left, split], ?_⟩
  rw [List.length_append]
  omega

/-- A session goes on as its expression is read. -/
theorem exists_reading (limits : Limits) (finish : Span) (session : Session) :
    ∃ reading, Run limits finish (.expression 0) session.depth session.rest reading ∧
      session.parse limits finish = (reading.verdict, reading.session session.depth) := by
  refine ⟨_, Task.run_read (.expression 0) session.depth session.rest, ?_⟩
  unfold Session.parse Reading.verdict Reading.session Task.read
  split <;> simp_all

/-- Tokens are passed, and levels are opened for some of them. -/
theorem follows_parse (limits : Limits) (finish : Span) (session : Session) :
    (session.parse limits finish).2.Follows session := by
  obtain ⟨reading, run, read⟩ := exists_reading limits finish session
  rw [read]
  exact run.passes.follows

theorem of_after (limits : Limits) (tokens : List Token) (calls : Nat) :
    Of tokens (after limits tokens calls) := by
  induction calls with
  | zero => exact of_new tokens
  | succ calls ih => exact ih.forward (follows_parse ..)

/-- At the end there is nothing to read, and nothing changes. -/
theorem parse_of_nil (limits : Limits) (finish : Span) (ends : session.rest = []) :
    session.parse limits finish = (.error (.unexpectedEnd .operand finish), session) := by
  obtain ⟨reading, run, read⟩ := exists_reading limits finish session
  obtain ⟨rest, depth⟩ := session
  cases ends
  rw [read, run.unique (.operandFailed .operandMissing)]
  rfl

/-- Before the end a token is passed at least. -/
theorem length_parse_lt (limits : Limits) (finish : Span) (goes : session.rest ≠ []) :
    (session.parse limits finish).2.rest.length < session.rest.length := by
  obtain ⟨reading, run, read⟩ := exists_reading limits finish session
  obtain ⟨token, rest, split⟩ := List.exists_cons_of_ne_nil goes
  rw [split] at run
  have left := (reading.session_suffix session.depth).trans run.takes_expression
  rw [read, split]
  exact Nat.lt_succ_of_le left.length_le

/-- No level is left open by a whole expression. -/
theorem depth_parse {limits : Limits} {finish : Span}
    (whole : Whole (session.parse limits finish).1) :
    (session.parse limits finish).2.depth = session.depth := by
  obtain ⟨reading, run, read⟩ := exists_reading limits finish session
  rw [read] at whole ⊢
  cases reading with
  | done tree last rest => rfl
  | failed fault depth rest => exact absurd run.passes.2 whole

/-- The answer is that of a new parser with fewer levels. -/
theorem parse_fresh (limits : Limits) (passed : Of tokens session) (goes : session.rest ≠ []) :
    Calculator.parse (limits.lower session.depth) session.rest =
      (session.parse limits (Parse.finish tokens)).1.mapError (.lower session.depth) := by
  obtain ⟨reading, run, read⟩ := exists_reading limits (Parse.finish tokens) session
  have lowered := run.lower (Nat.le_refl _ : session.depth + Task.entered (.expression 0) ≤ _)
  obtain ⟨used, split, -⟩ := passed
  rw [Nat.sub_self, split, finish_append goes] at lowered
  rw [read, ← reading.verdict_lower]
  exact parse_eq_of_run lowered

end Session

end Parse

end Calculator
