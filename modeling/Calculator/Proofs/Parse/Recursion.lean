import Calculator.Proofs.Parse.Sessions

/-! # How deeply the parser recurses

Whatever the tokens are, the limit on levels bounds how many expressions are being read at a time.
On one level there are three of them at most, since each binds more strongly than the one around it:
the whole, a term of a sum, and a factor of a product. Every other expression opens a level. So a
parser with that much room for recursion never runs out of it.
-/

namespace Calculator

namespace Parse

variable {limits : Limits} {finish : Span} {task : Task} {depth : Nat} {tokens : List Token}
  {reading : Reading} {fuel : Nat}

/-- Whether a task is the reading of an expression. -/
def Task.isExpression : Task → Bool
  | expression _ => true
  | _ => false

/-- How many of some calls read an expression. -/
def expressions (calls : List Call) : Nat := calls.countP (·.task.isExpression)

theorem expressions_cons (call : Call) (calls : List Call) :
    expressions (call :: calls) = expressions calls + if call.task.isExpression then 1 else 0 :=
  List.countP_cons

/-- How many expressions of one level are being read where operators of some power are, from the
loosest power on. -/
def rank (power : Nat) : Nat :=
  if power ≤ BinaryOp.add.leftPower then 1 else if power ≤ BinaryOp.mul.leftPower then 2 else 3

theorem rank_le (power : Nat) : rank power ≤ 3 := by
  unfold rank
  split
  · decide
  · split <;> decide

theorem rank_pos (power : Nat) : 1 ≤ rank power := by
  unfold rank
  split
  · decide
  · split <;> decide

/-- An operator that goes on with an expression has a tighter one to its right. -/
theorem rank_lt_rightPower {op : BinaryOp} {power : Nat} (binds : power ≤ op.leftPower)
    (other : op ≠ .pow) : rank power < rank op.rightPower := by
  cases op with
  | add | sub =>
    have first : rank power = 1 := if_pos binds
    rw [first]
    decide
  | mul | div =>
    have binds : power ≤ BinaryOp.mul.leftPower := binds
    have low : rank power ≤ 2 := by
      rw [rank, if_pos binds]
      split <;> decide
    exact Nat.lt_of_le_of_lt low (by decide)
  | pow => exact (other rfl).elim

namespace Call

/-- How many expressions can be under way where a call is made, its own among them. -/
def allowance (call : Call) : Nat :=
  3 * call.session.depth +
    match call.task with
    | .operand => 3
    | .expression power | .extend power _ _ => rank power
    | .nested .. => 0

/-- Whether the levels around a call keep their limit; the last one that a call opens is not
tested yet. -/
def Low (limits : Limits) (call : Call) : Prop :=
  match call.task with
  | .nested .. => call.session.depth ≤ limits.maxDepth + 1
  | _ => call.session.depth ≤ limits.maxDepth

theorem Low.allowance_le {call : Call} (low : call.Low limits) :
    call.allowance ≤ 3 * (limits.maxDepth + 1) := by
  obtain ⟨task, rest, depth⟩ := call
  cases task with
  | operand | nested =>
    simp only [Low, allowance] at low ⊢
    omega
  | expression power | extend power =>
    have high := rank_le power
    simp only [Low, allowance] at low ⊢
    omega

theorem Makes.low {outer inner : Call} (makes : Makes limits finish outer inner)
    (low : outer.Low limits) : inner.Low limits := by
  cases makes with
  | signedPower signed room => exact room
  | negate | group | call => exact Nat.succ_le_succ low
  | first | more | again => exact low
  | nested room => exact room
  | @right _ _ _ _ _ _ op =>
    unfold Task.right rightDepth
    split
    · exact Nat.succ_le_succ low
    · exact low

/-- A call that reads another expression has room for it: the expression binds more strongly than
the one around it, or stands on a level of its own. -/
theorem Makes.allowance {outer inner : Call} (makes : Makes limits finish outer inner) :
    outer.allowance + (if inner.task.isExpression then 1 else 0) ≤ inner.allowance := by
  cases makes with
  | signedPower | negate | group | call =>
    have signs : rank signPower = 3 := by decide
    simp only [Call.allowance, Task.isExpression, signs, Bool.false_eq_true, ↓reduceIte]
    omega
  | @first power =>
    have high := rank_le power
    simp only [Call.allowance, Task.isExpression, Bool.false_eq_true, ↓reduceIte]
    omega
  | more | again => exact Nat.le_refl _
  | @nested _ power =>
    have pos := rank_pos power
    simp only [Call.allowance, Task.isExpression, ↓reduceIte]
    omega
  | @right power _ _ _ _ _ op _ binds =>
    have high := rank_le power
    unfold Task.right rightDepth
    split
    case isTrue =>
      simp only [Call.allowance, Task.isExpression, Bool.false_eq_true, ↓reduceIte]
      omega
    case isFalse other =>
      have tighter := rank_lt_rightPower binds other
      simp only [Call.allowance, Task.isExpression, ↓reduceIte]
      omega

/-- Calls that are made one by the other never read more expressions than there is room for. -/
theorem expressions_le {call : Call} {calls : List Call} (low : call.Low limits)
    (chain : (call :: calls).IsChain (Makes limits finish)) :
    call.allowance + expressions calls ≤ 3 * (limits.maxDepth + 1) := by
  induction calls generalizing call with
  | nil => exact low.allowance_le
  | cons next calls ih =>
    obtain ⟨makes, chain⟩ := List.isChain_cons_cons.mp chain
    have step := makes.allowance
    have rest := ih (makes.low low) chain
    rw [expressions_cons]
    omega

/-- Whether at most so many expressions are read at a time in what a call leads to. -/
def Within (limits : Limits) (finish : Span) (fuel : Nat) (call : Call) : Prop :=
  ∀ calls, (call :: calls).IsChain (Makes limits finish) → expressions (call :: calls) ≤ fuel

namespace Within

variable {call next : Call}

theorem makes (within : call.Within limits finish fuel) (makes : Makes limits finish call next)
    (other : call.task.isExpression = false) : next.Within limits finish fuel := by
  intro calls chain
  have whole := within (next :: calls) (List.isChain_cons_cons.mpr ⟨makes, chain⟩)
  rwa [expressions_cons, other] at whole

/-- An expression takes up room of its own. -/
theorem exists_room {power : Nat} {session : Session}
    (within : Within limits finish fuel ⟨.expression power, session⟩) :
    ∃ room, fuel = room + 1 ∧ ∀ next, Makes limits finish ⟨.expression power, session⟩ next →
      next.Within limits finish room := by
  have pos : 1 ≤ fuel := within [] (List.isChain_singleton _)
  refine ⟨fuel - 1, (Nat.sub_add_cancel pos).symm, fun next makes calls chain => ?_⟩
  have whole := within (next :: calls) (List.isChain_cons_cons.mpr ⟨makes, chain⟩)
  rw [expressions_cons] at whole
  exact Nat.le_sub_one_of_lt whole

end Within

end Call

mutual

/-- Reads one operand, if that takes no more than `fuel` expressions at a time. -/
def operand? (limits : Limits) (finish : Span) (fuel depth : Nat) (tokens : List Token) :
    Option { reading : Reading // reading.Within tokens.length } :=
  match tokens with
  | [] => some ⟨.failed (.unexpectedEnd .operand finish) depth [], trivial⟩
  | ⟨.number value, span⟩ :: rest =>
    if Binary64.isNegative value && startsWithCaret rest then
      if limits.maxDepth < depth + 1 then
        some ⟨.failed (.tooComplex limits.maxDepth span) (depth + 1) rest, trivial⟩
      else do
        let power ← extend? limits finish fuel (depth + 1) signPower (.literal (-value)) span rest
        return ⟨power.1.map .negate, power.2.map _⟩
    else some ⟨.done (.literal value) span rest, Nat.lt_succ_self _⟩
  | ⟨.function name, _⟩ :: rest =>
    match rest with
    | [] => some ⟨.failed (.missingParenthesis name finish) depth [], trivial⟩
    | ⟨lexeme, span⟩ :: rest =>
      if lexeme = .symbol .openParen then do
        let inner ← nested? limits finish fuel (depth + 1) span 0 rest
        return ⟨(inner.1.close span (depth + 1)).map (.call name),
          ((inner.2.mono (Nat.le_add_right _ 2)).close _ _).map _⟩
      else some ⟨.failed (.missingParenthesis name span) depth rest, trivial⟩
  | ⟨.symbol .minus, span⟩ :: rest => do
    let inner ← nested? limits finish fuel (depth + 1) span signPower rest
    return ⟨inner.1.map .negate, (inner.2.mono (Nat.le_succ _)).map _⟩
  | ⟨.symbol .openParen, span⟩ :: rest => do
    let inner ← nested? limits finish fuel (depth + 1) span 0 rest
    return ⟨inner.1.close span (depth + 1), (inner.2.mono (Nat.le_succ _)).close _ _⟩
  | ⟨.symbol sign, span⟩ :: rest =>
    some ⟨.failed (.unexpectedToken .operand (.symbol sign) span) depth rest, trivial⟩
termination_by 3 * tokens.length

/-- Reads an expression, if that takes no more than `fuel` expressions at a time, its own among
them. -/
def expression? (limits : Limits) (finish : Span) (fuel depth power : Nat) (tokens : List Token) :
    Option { reading : Reading // reading.Within tokens.length } :=
  match fuel with
  | 0 => none
  | fuel + 1 => do
    let first ← operand? limits finish fuel depth tokens
    match first with
    | ⟨.failed fault depth rest, _⟩ => return ⟨.failed fault depth rest, trivial⟩
    | ⟨.done lhs last rest, shorter⟩ =>
      if limits.maxHeight < lhs.height then
        return ⟨.failed (.tooTall limits.maxHeight last) depth rest, trivial⟩
      else
        let whole ← extend? limits finish fuel depth power lhs last rest
        return ⟨whole.1, whole.2.mono shorter⟩
termination_by 3 * tokens.length + 1
decreasing_by
  · omega
  · have : rest.length < tokens.length := shorter
    omega

/-- Reads an expression inside a level, if that takes no more than `fuel` expressions at a time. -/
def nested? (limits : Limits) (finish : Span) (fuel depth : Nat) (opening : Span) (power : Nat)
    (tokens : List Token) : Option { reading : Reading // reading.Within tokens.length } :=
  if limits.maxDepth < depth then
    some ⟨.failed (.tooComplex limits.maxDepth opening) depth tokens, trivial⟩
  else expression? limits finish fuel depth power tokens
termination_by 3 * tokens.length + 2

/-- Reads the operators that extend an expression, if that takes no more than `fuel` expressions at
a time. -/
def extend? (limits : Limits) (finish : Span) (fuel depth power : Nat) (lhs : Expr) (last : Span)
    (tokens : List Token) : Option { reading : Reading // reading.Within (tokens.length + 1) } :=
  match tokens with
  | [] => some ⟨.done lhs last [], Nat.lt_succ_self _⟩
  | token :: rest =>
    match token.lexeme.operator? with
    | none => some ⟨.done lhs last (token :: rest), Nat.lt_succ_self _⟩
    | some op =>
      if op.leftPower < power then some ⟨.done lhs last (token :: rest), Nat.lt_succ_self _⟩
      else do
        let right ← (
          if op = .pow then nested? limits finish fuel (depth + 1) token.span op.rightPower rest
          else expression? limits finish fuel depth op.rightPower rest)
        match right with
        | ⟨.failed fault depth rest, _⟩ => return ⟨.failed fault depth rest, trivial⟩
        | ⟨.done rhs last after, shorter⟩ =>
          if limits.maxHeight < (Expr.binary op lhs rhs).height then
            return ⟨.failed (.tooTall limits.maxHeight token.span) depth after, trivial⟩
          else
            let whole ← extend? limits finish fuel depth power (.binary op lhs rhs) last after
            return ⟨whole.1,
              whole.2.mono (Nat.le_succ_of_le (Nat.succ_le_succ (Nat.le_of_lt shorter)))⟩
termination_by 3 * tokens.length
decreasing_by
  all_goals simp only [List.length_cons]
  · omega
  · omega
  · have : after.length < rest.length := shorter
    omega

end

/-- What a task comes to, if it takes no more than `fuel` expressions at a time. -/
def Task.read? (limits : Limits) (finish : Span) (fuel depth : Nat) (tokens : List Token) :
    Task → Option Reading
  | operand => (operand? limits finish fuel depth tokens).map Subtype.val
  | expression power => (expression? limits finish fuel depth power tokens).map Subtype.val
  | nested opening power => (nested? limits finish fuel depth opening power tokens).map Subtype.val
  | extend power lhs last =>
    (extend? limits finish fuel depth power lhs last tokens).map Subtype.val

theorem read?_right (op : BinaryOp) (place : Span) (fuel depth : Nat) (tokens : List Token) :
    (Task.right op place).read? limits finish fuel (rightDepth op depth) tokens =
      (if op = .pow then nested? limits finish fuel (depth + 1) place op.rightPower tokens
        else expression? limits finish fuel depth op.rightPower tokens).map Subtype.val := by
  unfold Task.right rightDepth
  split <;> rfl

theorem read?_expression (fuel depth power : Nat) (tokens : List Token) :
    (Task.expression power).read? limits finish (fuel + 1) depth tokens =
      (Task.operand.read? limits finish fuel depth tokens).bind fun
        | .failed fault depth rest => some (.failed fault depth rest)
        | .done lhs last rest =>
          if limits.maxHeight < lhs.height then
            some (.failed (.tooTall limits.maxHeight last) depth rest)
          else (Task.extend power lhs last).read? limits finish fuel depth rest := by
  simp only [Task.read?]
  rw [expression?.eq_def]
  dsimp only
  cases operand? limits finish fuel depth tokens with
  | none => rfl
  | some first =>
    rcases first with ⟨⟨lhs, last, rest⟩ | ⟨fault, depth', rest⟩, shorter⟩
    · simp only [Option.bind_eq_bind, Option.bind_some, Option.map_some]
      split
      · rfl
      · cases extend? limits finish fuel depth power lhs last rest <;> rfl
    · rfl

theorem read?_extend {power : Nat} {token : Token} {op : BinaryOp}
    (operator : token.lexeme.operator? = some op) (binds : power ≤ op.leftPower) (fuel depth : Nat)
    (lhs : Expr) (last : Span) (rest : List Token) :
    (Task.extend power lhs last).read? limits finish fuel depth (token :: rest) =
      ((Task.right op token.span).read? limits finish fuel (rightDepth op depth) rest).bind fun
        | .failed fault depth rest => some (.failed fault depth rest)
        | .done rhs last after =>
          if limits.maxHeight < (Expr.binary op lhs rhs).height then
            some (.failed (.tooTall limits.maxHeight token.span) depth after)
          else
            (Task.extend power (.binary op lhs rhs) last).read? limits finish fuel depth after := by
  rw [read?_right]
  simp only [Task.read?]
  rw [extend?.eq_def]
  dsimp only
  split
  case h_1 none => simp [none] at operator
  case h_2 other same =>
    obtain rfl := Option.some.inj (same.symm.trans operator)
    rw [if_neg (Nat.not_lt.mpr binds)]
    generalize (if other = .pow then _ else _ : Option { reading : Reading // _ }) = right
    rcases right with _ | ⟨⟨rhs, last', after⟩ | ⟨fault, depth, after⟩, shorter⟩
    · rfl
    · simp only [Option.bind_eq_bind, Option.bind_some, Option.map_some]
      split
      · rfl
      · cases extend? limits finish fuel depth power (.binary other lhs rhs) last' after <;> rfl
    · rfl

/-- With as much room as is taken up, a task comes to what it comes to anyway. -/
theorem Run.read?_eq (run : Run limits finish task depth tokens reading)
    (within : Call.Within limits finish fuel ⟨task, tokens, depth⟩) :
    task.read? limits finish fuel depth tokens = some reading := by
  induction run generalizing fuel with
  | operandMissing =>
    simp only [Task.read?]
    rw [operand?.eq_def]
    rfl
  | number unsigned =>
    rw [signsPower] at unsigned
    simp only [Task.read?]
    rw [operand?.eq_def]
    simp only [unsigned, Bool.false_eq_true, ↓reduceIte, Option.map_some]
  | signedPowerDeep signed deep =>
    rw [signsPower] at signed
    simp only [Task.read?]
    rw [operand?.eq_def]
    simp only [signed, deep, ↓reduceIte, Option.map_some]
  | signedPower signed room _ ih =>
    obtain ⟨power, read, rfl⟩ :=
      Option.map_eq_some_iff.mp (ih (within.makes (.signedPower signed room) rfl))
    rw [signsPower] at signed
    simp only [Task.read?]
    rw [operand?.eq_def]
    simp only [signed, Nat.not_lt.mpr room, read, ↓reduceIte]
    rfl
  | negate _ ih =>
    obtain ⟨inner, read, rfl⟩ := Option.map_eq_some_iff.mp (ih (within.makes .negate rfl))
    simp only [Task.read?]
    rw [operand?.eq_def]
    simp only [read]
    rfl
  | group _ ih =>
    obtain ⟨inner, read, rfl⟩ := Option.map_eq_some_iff.mp (ih (within.makes .group rfl))
    simp only [Task.read?]
    rw [operand?.eq_def]
    simp only [read]
    rfl
  | stray notMinus notOpen =>
    simp only [Task.read?]
    rw [operand?.eq_def]
    split <;> simp_all
  | call _ ih =>
    obtain ⟨inner, read, rfl⟩ := Option.map_eq_some_iff.mp (ih (within.makes .call rfl))
    simp only [Task.read?]
    rw [operand?.eq_def]
    simp only [read, ↓reduceIte]
    rfl
  | callEnds =>
    simp only [Task.read?]
    rw [operand?.eq_def]
    rfl
  | callUnopened notOpen =>
    simp only [Task.read?]
    rw [operand?.eq_def]
    simp only [notOpen, ↓reduceIte, Option.map_some]
  | operandFailed _ ih =>
    obtain ⟨room, rfl, inside⟩ := within.exists_room
    rw [read?_expression, ih (inside _ .first)]
    rfl
  | operandTall _ tall ih =>
    obtain ⟨room, rfl, inside⟩ := within.exists_room
    rw [read?_expression, ih (inside _ .first)]
    exact if_pos tall
  | expression first low _ ihFirst ihMore =>
    obtain ⟨room, rfl, inside⟩ := within.exists_room
    rw [read?_expression, ihFirst (inside _ .first)]
    exact (if_neg (Nat.not_lt.mpr low)).trans (ihMore (inside _ (.more first low)))
  | nestedDeep deep =>
    simp only [Task.read?]
    rw [nested?, if_pos deep]
    rfl
  | nested room _ ih =>
    have ih := ih (within.makes (.nested room) rfl)
    simp only [Task.read?] at ih ⊢
    rw [nested?, if_neg (Nat.not_lt.mpr room)]
    exact ih
  | stop stops =>
    simp only [Task.read?]
    rw [extend?.eq_def]
    split
    · rfl
    · split
      · rfl
      · rw [if_pos (stops _ (by assumption))]
        rfl
  | rightFailed operator binds _ ih =>
    rw [read?_extend operator binds, ih (within.makes (.right operator binds) rfl)]
    rfl
  | rightTall operator binds _ tall ih =>
    rw [read?_extend operator binds, ih (within.makes (.right operator binds) rfl)]
    exact if_pos tall
  | extend operator binds right low _ ihRight ihMore =>
    rw [read?_extend operator binds, ihRight (within.makes (.right operator binds) rfl)]
    exact (if_neg (Nat.not_lt.mpr low)).trans
      (ihMore (within.makes (.again operator binds right low) rfl))

/-- The call that reads all the tokens. -/
def Call.root (tokens : List Token) : Call := ⟨.expression 0, tokens, 0⟩

theorem Call.expressions_root_le (limits : Limits) (tokens : List Token) {calls : List Call}
    (chain : (Call.root tokens :: calls).IsChain (Makes limits finish)) :
    expressions (Call.root tokens :: calls) ≤ 3 * (limits.maxDepth + 1) := by
  have low : (Call.root tokens).Low limits := Nat.zero_le _
  have inside := Call.expressions_le low chain
  rw [expressions_cons]
  change 1 + _ ≤ _ at inside
  exact Nat.le_trans (Nat.le_of_eq (Nat.add_comm _ _)) inside

end Parse

/-- The answer of a parser that has room for `fuel` expressions at a time. -/
def parse? (fuel : Nat) (limits : Limits) (tokens : List Token) :
    Option (Except ParseFault Expr) :=
  ((Parse.Task.expression 0).read? limits (Parse.finish tokens) fuel 0 tokens).map
    Parse.Reading.verdict

/-- Three expressions on each level that the limit allows are room enough for any tokens. -/
theorem parse?_eq {fuel : Nat} {limits : Limits} (tokens : List Token)
    (room : 3 * (limits.maxDepth + 1) ≤ fuel) :
    parse? fuel limits tokens = some (parse limits tokens) := by
  obtain ⟨reading, run, verdict⟩ := parse_eq_verdict limits tokens
  have read := run.read?_eq fun calls chain =>
    Nat.le_trans (Parse.Call.expressions_root_le limits tokens chain) room
  rw [parse?, read, verdict]
  rfl

/-- The bound is met on one level: a product to the right of a sum takes three expressions at a
time, and there is no answer with room for two. -/
example : parse? 2 { maxDepth := 0 } [⟨.number 1, ⟨0, 1⟩⟩, ⟨.symbol .plus, ⟨1, 2⟩⟩,
    ⟨.number 2, ⟨2, 3⟩⟩, ⟨.symbol .star, ⟨3, 4⟩⟩, ⟨.number 3, ⟨4, 5⟩⟩] = none := by
  decide +kernel

end Calculator
