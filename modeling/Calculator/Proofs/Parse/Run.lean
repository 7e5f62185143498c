import Calculator.Expr.Parse

/-! # Runs of the parser

The four functions of the parser call each other, and each returns its reading together with a
bound on the tokens it leaves. A run forgets the bound and lists, one rule for each way a task can
be settled, everything the parser can do. `Task.run_iff` says that runs and readings are the same
thing; what holds of the parser is then proved by induction on its runs.
-/

namespace Calculator

theorem Lexeme.operator?_symbol (op : BinaryOp) : (symbol op.symbol).operator? = some op :=
  BinaryOp.ofSymbol?_symbol op

theorem Lexeme.eq_symbol_of_operator? {lexeme : Lexeme} {op : BinaryOp}
    (operator : lexeme.operator? = some op) : lexeme = symbol op.symbol := by
  cases lexeme with
  | number value => cases operator
  | function name => cases operator
  | symbol sign => cases sign <;> cases operator <;> rfl

/-- Whether a fault says that one of the limits is exceeded. -/
def Limits.Exceeded (limits : Limits) : ParseFault → Prop
  | .tooComplex bound _ => bound = limits.maxDepth
  | .tooTall bound _ => bound = limits.maxHeight
  | _ => False

namespace Parse

namespace Reading

variable {reading : Reading} {tree : Expr} {last : Span} {rest : List Token}

theorem map_id (reading : Reading) : reading.map id = reading := by
  cases reading <;> rfl

theorem map_eq_done {change : Expr → Expr} :
    reading.map change = .done tree last rest ↔
      ∃ inner, reading = .done inner last rest ∧ change inner = tree := by
  cases reading with
  | done inner before after =>
    simp only [map, done.injEq]
    exact ⟨fun ⟨same, place, left⟩ => ⟨inner, ⟨rfl, place, left⟩, same⟩,
      fun ⟨_, ⟨rfl, place, left⟩, same⟩ => ⟨same, place, left⟩⟩
  | failed => simp [map]

theorem map_eq_failed {change : Expr → Expr} {fault : ParseFault} {depth : Nat} :
    reading.map change = .failed fault depth rest ↔ reading = .failed fault depth rest := by
  cases reading <;> simp [map]

theorem close_eq_done {opening : Span} {depth : Nat} :
    reading.close opening depth = .done tree last rest ↔
      ∃ before, reading = .done tree before (⟨.symbol .closeParen, last⟩ :: rest) := by
  rcases reading with ⟨inner, before, _ | ⟨⟨lexeme, place⟩, after⟩⟩ | ⟨fault, depth', after⟩
  · simp [close]
  · simp only [close, done.injEq, List.cons.injEq, Token.mk.injEq]
    split
    case isTrue closes => simp [closes]
    case isFalse other => simp [other]
  · simp [close]

theorem close_other {token : Token} {opening : Span} {depth : Nat}
    (other : token.lexeme ≠ .symbol .closeParen) :
    (done tree last (token :: rest)).close opening depth =
      .failed (.unexpectedToken .closeParen token.lexeme token.span) depth rest :=
  if_neg other

/-- Whether a reading failed because one of the limits is exceeded. -/
def Exceeds (limits : Limits) : Reading → Prop
  | failed fault _ _ => limits.Exceeded fault
  | done .. => False

theorem exceeds_map {limits : Limits} {change : Expr → Expr} :
    (reading.map change).Exceeds limits ↔ reading.Exceeds limits := by
  cases reading <;> rfl

theorem exceeds_close {limits : Limits} {opening : Span} {level : Nat} :
    (reading.close opening level).Exceeds limits ↔ reading.Exceeds limits := by
  rcases reading with ⟨tree, last, _ | ⟨token, rest⟩⟩ | ⟨fault, depth, rest⟩
  · rfl
  · unfold close
    dsimp only
    split <;> rfl
  · rfl

end Reading

/-- A task of the parser, with what it is given besides its level and its tokens. -/
inductive Task where
  | operand
  | expression (power : Nat)
  | nested (opening : Span) (power : Nat)
  | extend (power : Nat) (lhs : Expr) (last : Span)
deriving DecidableEq, Repr

namespace Task

/-- What the parser makes of a task. -/
def read (limits : Limits) (finish : Span) (depth : Nat) (tokens : List Token) : Task → Reading
  | operand => (Parse.operand limits finish depth tokens).1
  | expression power => (Parse.expression limits finish depth power tokens).1
  | nested opening power => (Parse.nested limits finish depth opening power tokens).1
  | extend power lhs last => (Parse.extend limits finish depth power lhs last tokens).1

/-- The task of reading what stands to the right of an operator at `place`. -/
def right (op : BinaryOp) (place : Span) : Task :=
  if op = .pow then nested place op.rightPower else expression op.rightPower

end Task

/-- The level at which the right side of an operator is read: only an exponent opens one. -/
def rightDepth (op : BinaryOp) (depth : Nat) : Nat := if op = .pow then depth + 1 else depth

/-- Whether an expression of some power ends before these tokens: no operator that binds its left
side at least that strongly comes next. -/
def Stops (power : Nat) : List Token → Prop
  | [] => True
  | token :: _ => ∀ op, token.lexeme.operator? = some op → op.leftPower < power

theorem Stops.imp {small large : Nat} {tokens : List Token} (stops : Stops large tokens)
    (smaller : ∀ op : BinaryOp, op.leftPower < large → op.leftPower < small) :
    Stops small tokens := by
  cases tokens with
  | nil => trivial
  | cons token rest => exact fun op operator => smaller op (stops op operator)

theorem Stops.mono {small large : Nat} {tokens : List Token} (stops : Stops small tokens)
    (le : small ≤ large) : Stops large tokens :=
  stops.imp fun _ less => Nat.lt_of_lt_of_le less le

/-- No operator binds its left side more strongly than a product and less strongly than a power. -/
theorem Stops.of_power {power : Nat} {tokens : List Token}
    (stops : Stops BinaryOp.pow.leftPower tokens) (tight : BinaryOp.mul.leftPower < power) :
    Stops power tokens := by
  refine stops.imp fun op less => ?_
  cases op with
  | add | sub | mul | div => exact Nat.lt_of_le_of_lt (by decide) tight
  | pow => exact absurd less (Nat.lt_irrefl _)

theorem Stops.of_operator? {power : Nat} {token : Token} {rest : List Token} {op : BinaryOp}
    (operator : token.lexeme.operator? = some op) (looser : op.leftPower < power) :
    Stops power (token :: rest) := by
  intro other same
  rwa [← Option.some.inj (operator.symm.trans same)]

theorem Stops.of_operator?_none {power : Nat} {token : Token} {rest : List Token}
    (none : token.lexeme.operator? = none) : Stops power (token :: rest) := by
  intro op operator
  simp [none] at operator

theorem startsWithCaret_eq_false {tokens : List Token} (stops : Stops 8 tokens) :
    startsWithCaret tokens = false := by
  cases tokens with
  | nil => rfl
  | cons token rest =>
    refine decide_eq_false fun caret => ?_
    have : BinaryOp.leftPower .pow < 8 := stops .pow (by rw [caret]; rfl)
    exact absurd this (by decide)

/-- Whether a number at the head of these tokens is read as a sign before a power. -/
def signsPower (value : Float) (rest : List Token) : Bool :=
  Binary64.isNegative value && startsWithCaret rest

/-- The parser settles a task at some level with a reading of the tokens. -/
inductive Run (limits : Limits) (finish : Span) : Task → Nat → List Token → Reading → Prop
  | operandMissing {depth} :
    Run limits finish .operand depth [] (.failed (.unexpectedEnd .operand finish) depth [])
  | number {depth value place rest} (unsigned : signsPower value rest = false) :
    Run limits finish .operand depth (⟨.number value, place⟩ :: rest)
      (.done (.literal value) place rest)
  | signedPowerDeep {depth value place rest} (signed : signsPower value rest = true)
      (deep : limits.maxDepth < depth + 1) :
    Run limits finish .operand depth (⟨.number value, place⟩ :: rest)
      (.failed (.tooComplex limits.maxDepth place) (depth + 1) rest)
  | signedPower {depth value place rest reading} (signed : signsPower value rest = true)
      (room : depth + 1 ≤ limits.maxDepth)
      (power : Run limits finish (.extend signPower (.literal (-value)) place) (depth + 1) rest
        reading) :
    Run limits finish .operand depth (⟨.number value, place⟩ :: rest) (reading.map .negate)
  | negate {depth place rest reading}
      (inner : Run limits finish (.nested place signPower) (depth + 1) rest reading) :
    Run limits finish .operand depth (⟨.symbol .minus, place⟩ :: rest) (reading.map .negate)
  | group {depth opening rest reading}
      (inner : Run limits finish (.nested opening 0) (depth + 1) rest reading) :
    Run limits finish .operand depth (⟨.symbol .openParen, opening⟩ :: rest)
      (reading.close opening (depth + 1))
  | stray {depth sign place rest} (notMinus : sign ≠ .minus) (notOpen : sign ≠ .openParen) :
    Run limits finish .operand depth (⟨.symbol sign, place⟩ :: rest)
      (.failed (.unexpectedToken .operand (.symbol sign) place) depth rest)
  | call {depth name place opening rest reading}
      (inner : Run limits finish (.nested opening 0) (depth + 1) rest reading) :
    Run limits finish .operand depth
      (⟨.function name, place⟩ :: ⟨.symbol .openParen, opening⟩ :: rest)
      ((reading.close opening (depth + 1)).map (.call name))
  | callEnds {depth name place} :
    Run limits finish .operand depth [⟨.function name, place⟩]
      (.failed (.missingParenthesis name finish) depth [])
  | callUnopened {depth name place token rest} (notOpen : token.lexeme ≠ .symbol .openParen) :
    Run limits finish .operand depth (⟨.function name, place⟩ :: token :: rest)
      (.failed (.missingParenthesis name token.span) depth rest)
  | operandFailed {power depth tokens fault depth' rest}
      (first : Run limits finish .operand depth tokens (.failed fault depth' rest)) :
    Run limits finish (.expression power) depth tokens (.failed fault depth' rest)
  | operandTall {power depth tokens lhs last rest}
      (first : Run limits finish .operand depth tokens (.done lhs last rest))
      (tall : limits.maxHeight < lhs.height) :
    Run limits finish (.expression power) depth tokens
      (.failed (.tooTall limits.maxHeight last) depth rest)
  | expression {power depth tokens lhs last rest reading}
      (first : Run limits finish .operand depth tokens (.done lhs last rest))
      (low : lhs.height ≤ limits.maxHeight)
      (more : Run limits finish (.extend power lhs last) depth rest reading) :
    Run limits finish (.expression power) depth tokens reading
  | nestedDeep {opening power depth tokens} (deep : limits.maxDepth < depth) :
    Run limits finish (.nested opening power) depth tokens
      (.failed (.tooComplex limits.maxDepth opening) depth tokens)
  | nested {opening power depth tokens reading} (room : depth ≤ limits.maxDepth)
      (inner : Run limits finish (.expression power) depth tokens reading) :
    Run limits finish (.nested opening power) depth tokens reading
  | stop {power lhs last depth tokens} (stops : Stops power tokens) :
    Run limits finish (.extend power lhs last) depth tokens (.done lhs last tokens)
  | rightFailed {power lhs last depth token rest op fault depth' after}
      (operator : token.lexeme.operator? = some op) (binds : power ≤ op.leftPower)
      (right : Run limits finish (.right op token.span) (rightDepth op depth) rest
        (.failed fault depth' after)) :
    Run limits finish (.extend power lhs last) depth (token :: rest) (.failed fault depth' after)
  | rightTall {power lhs last depth token rest op rhs last' after}
      (operator : token.lexeme.operator? = some op) (binds : power ≤ op.leftPower)
      (right : Run limits finish (.right op token.span) (rightDepth op depth) rest
        (.done rhs last' after))
      (tall : limits.maxHeight < (Expr.binary op lhs rhs).height) :
    Run limits finish (.extend power lhs last) depth (token :: rest)
      (.failed (.tooTall limits.maxHeight token.span) depth after)
  | extend {power lhs last depth token rest op rhs last' after reading}
      (operator : token.lexeme.operator? = some op) (binds : power ≤ op.leftPower)
      (right : Run limits finish (.right op token.span) (rightDepth op depth) rest
        (.done rhs last' after))
      (low : (Expr.binary op lhs rhs).height ≤ limits.maxHeight)
      (more : Run limits finish (.extend power (.binary op lhs rhs) last') depth after reading) :
    Run limits finish (.extend power lhs last) depth (token :: rest) reading

variable {limits : Limits} {finish : Span}

private theorem read_right (op : BinaryOp) (place : Span) (depth : Nat) (tokens : List Token) :
    (Task.right op place).read limits finish (rightDepth op depth) tokens =
      (if op = .pow then nested limits finish (depth + 1) place op.rightPower tokens
        else expression limits finish depth op.rightPower tokens).1 := by
  unfold Task.right rightDepth
  split <;> rfl

private theorem run_operand (depth : Nat) (tokens : List Token)
    (shorter : ∀ task depth rest, rest.length < tokens.length →
      Run limits finish task depth rest (task.read limits finish depth rest)) :
    Run limits finish .operand depth tokens (Task.operand.read limits finish depth tokens) := by
  simp only [Task.read]
  rw [operand.eq_def]
  split
  case h_1 => exact .operandMissing
  case h_2 value place rest =>
    split
    case isTrue signed =>
      split
      case isTrue deep => exact .signedPowerDeep signed deep
      case isFalse room =>
        exact .signedPower signed (Nat.le_of_not_lt room)
          (shorter (.extend signPower (.literal (-value)) place) _ rest (Nat.lt_succ_self _))
    case isFalse unsigned => exact .number (Bool.eq_false_iff.mpr unsigned)
  case h_3 name place rest =>
    split
    · exact .callEnds
    case h_2 lexeme opening rest =>
      split
      case isTrue same =>
        subst same
        exact .call (shorter (.nested opening 0) _ rest (by simp only [List.length_cons]; omega))
      case isFalse notOpen => exact .callUnopened notOpen
  case h_4 place rest =>
    exact .negate (shorter (.nested place signPower) _ rest (Nat.lt_succ_self _))
  case h_5 opening rest => exact .group (shorter (.nested opening 0) _ rest (Nat.lt_succ_self _))
  case h_6 sign place rest notMinus notOpen => exact .stray notMinus notOpen

private theorem run_expression (depth power : Nat) (tokens : List Token)
    (first : Run limits finish .operand depth tokens (Task.operand.read limits finish depth tokens))
    (shorter : ∀ task depth rest, rest.length < tokens.length →
      Run limits finish task depth rest (task.read limits finish depth rest)) :
    Run limits finish (.expression power) depth tokens
      ((Task.expression power).read limits finish depth tokens) := by
  simp only [Task.read] at first ⊢
  rw [expression]
  split
  case h_1 fault depth' rest within same =>
    rw [same] at first
    exact .operandFailed first
  case h_2 lhs last rest within same =>
    rw [same] at first
    split
    case isTrue tall => exact .operandTall first tall
    case isFalse low =>
      exact .expression first (Nat.le_of_not_lt low)
        (shorter (.extend power lhs last) depth rest within)

private theorem run_nested (depth power : Nat) (opening : Span) (tokens : List Token)
    (inner : Run limits finish (.expression power) depth tokens
      ((Task.expression power).read limits finish depth tokens)) :
    Run limits finish (.nested opening power) depth tokens
      ((Task.nested opening power).read limits finish depth tokens) := by
  simp only [Task.read] at inner ⊢
  rw [nested]
  split
  case isTrue deep => exact .nestedDeep deep
  case isFalse room => exact .nested (Nat.le_of_not_lt room) inner

private theorem run_extend (depth power : Nat) (lhs : Expr) (last : Span) (tokens : List Token)
    (shorter : ∀ task depth rest, rest.length < tokens.length →
      Run limits finish task depth rest (task.read limits finish depth rest)) :
    Run limits finish (.extend power lhs last) depth tokens
      ((Task.extend power lhs last).read limits finish depth tokens) := by
  simp only [Task.read]
  rw [Parse.extend.eq_def]
  split
  case h_1 => exact .stop trivial
  case h_2 token rest =>
    split
    case h_1 none => exact .stop fun op operator => by simp [none] at operator
    case h_2 op operator =>
      split
      case isTrue loose =>
        refine .stop fun other same => ?_
        rwa [← Option.some.inj (operator.symm.trans same)]
      case isFalse binds =>
        have binds := Nat.le_of_not_lt binds
        have right := shorter (.right op token.span) (rightDepth op depth) rest
          (Nat.lt_succ_self _)
        rw [read_right] at right
        dsimp only
        split
        case h_1 fault depth' after within same =>
          rw [same] at right
          exact .rightFailed operator binds right
        case h_2 rhs last' after within same =>
          rw [same] at right
          have within : after.length < rest.length := within
          split
          case isTrue tall => exact .rightTall operator binds right tall
          case isFalse low =>
            exact .extend operator binds right (Nat.le_of_not_lt low)
              (shorter (.extend power (.binary op lhs rhs) last') depth after
                (Nat.lt_succ_of_lt within))

/-- What the parser reads is a run of it. -/
theorem Task.run_read (task : Task) (depth : Nat) (tokens : List Token) :
    Run limits finish task depth tokens (task.read limits finish depth tokens) := by
  induction count : tokens.length using Nat.strongRecOn generalizing task depth tokens with
  | ind n ih =>
    subst count
    have shorter (task : Task) (depth : Nat) (rest : List Token)
        (less : rest.length < tokens.length) :
        Run limits finish task depth rest (task.read limits finish depth rest) :=
      ih rest.length less task depth rest rfl
    have atOperand := run_operand depth tokens shorter
    have atExpression (power : Nat) := run_expression depth power tokens atOperand shorter
    cases task with
    | operand => exact atOperand
    | expression power => exact atExpression power
    | nested opening power => exact run_nested depth power opening tokens (atExpression power)
    | extend power lhs last => exact run_extend depth power lhs last tokens shorter

private theorem read_expression (power depth : Nat) (tokens : List Token) :
    (Task.expression power).read limits finish depth tokens =
      match Task.operand.read limits finish depth tokens with
      | .failed fault depth rest => .failed fault depth rest
      | .done lhs last rest =>
        if limits.maxHeight < lhs.height then .failed (.tooTall limits.maxHeight last) depth rest
        else (Task.extend power lhs last).read limits finish depth rest := by
  simp only [Task.read]
  rw [Parse.expression]
  split
  case h_1 failed => rw [failed]
  case h_2 done =>
    rw [done]
    dsimp only
    split <;> rfl

private theorem read_extend {power : Nat} {token : Token} {op : BinaryOp}
    (operator : token.lexeme.operator? = some op) (binds : power ≤ op.leftPower) (depth : Nat)
    (lhs : Expr) (last : Span) (rest : List Token) :
    (Task.extend power lhs last).read limits finish depth (token :: rest) =
      match (Task.right op token.span).read limits finish (rightDepth op depth) rest with
      | .failed fault depth rest => .failed fault depth rest
      | .done rhs last after =>
        if limits.maxHeight < (Expr.binary op lhs rhs).height then
          .failed (.tooTall limits.maxHeight token.span) depth after
        else (Task.extend power (.binary op lhs rhs) last).read limits finish depth after := by
  rw [read_right]
  simp only [Task.read]
  rw [Parse.extend]
  split
  case h_1 none => simp [none] at operator
  case h_2 other same =>
    obtain rfl := Option.some.inj (same.symm.trans operator)
    rw [if_neg (Nat.not_lt.mpr binds)]
    dsimp only
    split
    case h_1 failed => rw [failed]
    case h_2 done =>
      rw [done]
      dsimp only
      split <;> rfl

/-- A task has only one run, the one the parser makes. -/
theorem Run.read_eq {task : Task} {depth : Nat} {tokens : List Token} {reading : Reading}
    (run : Run limits finish task depth tokens reading) :
    task.read limits finish depth tokens = reading := by
  induction run with
  | operandMissing =>
    simp only [Task.read]
    rw [operand.eq_def]
  | number unsigned =>
    rw [signsPower] at unsigned
    simp only [Task.read]
    rw [operand.eq_def]
    simp only [unsigned, Bool.false_eq_true, ↓reduceIte]
  | signedPowerDeep signed deep =>
    rw [signsPower] at signed
    simp only [Task.read]
    rw [operand.eq_def]
    simp only [signed, deep, ↓reduceIte]
  | signedPower signed room _ ih =>
    rw [signsPower] at signed
    simp only [Task.read] at ih ⊢
    rw [operand.eq_def]
    simp only [signed, Nat.not_lt.mpr room, ih, ↓reduceIte]
  | negate _ ih =>
    simp only [Task.read] at ih ⊢
    rw [operand.eq_def]
    simp only [ih]
  | group _ ih =>
    simp only [Task.read] at ih ⊢
    rw [operand.eq_def]
    simp only [ih]
  | stray notMinus notOpen =>
    simp only [Task.read]
    rw [operand.eq_def]
    split <;> simp_all
  | call _ ih =>
    simp only [Task.read] at ih ⊢
    rw [operand.eq_def]
    simp only [ih, ↓reduceIte]
  | callEnds =>
    simp only [Task.read]
    rw [operand.eq_def]
  | callUnopened notOpen =>
    simp only [Task.read]
    rw [operand.eq_def]
    simp only [notOpen, ↓reduceIte]
  | operandFailed _ ih => rw [read_expression, ih]
  | operandTall _ tall ih =>
    rw [read_expression, ih]
    exact if_pos tall
  | expression _ low _ ihFirst ihMore =>
    rw [read_expression, ihFirst]
    exact (if_neg (Nat.not_lt.mpr low)).trans ihMore
  | nestedDeep deep =>
    simp only [Task.read]
    rw [Parse.nested, if_pos deep]
  | nested room _ ih =>
    simp only [Task.read] at ih ⊢
    rw [Parse.nested, if_neg (Nat.not_lt.mpr room), ih]
  | stop stops =>
    simp only [Task.read]
    rw [Parse.extend.eq_def]
    split
    · rfl
    · split
      · rfl
      · rw [if_pos (stops _ (by assumption))]
  | rightFailed operator binds _ ih => rw [read_extend operator binds, ih]
  | rightTall operator binds _ tall ih =>
    rw [read_extend operator binds, ih]
    exact if_pos tall
  | extend operator binds _ low _ ihRight ihMore =>
    rw [read_extend operator binds, ihRight]
    exact (if_neg (Nat.not_lt.mpr low)).trans ihMore

theorem Task.run_iff {task : Task} {depth : Nat} {tokens : List Token} {reading : Reading} :
    Run limits finish task depth tokens reading ↔
      task.read limits finish depth tokens = reading :=
  ⟨Run.read_eq, fun same => same ▸ task.run_read depth tokens⟩

/-- Runs of one task agree. -/
theorem Run.unique {task : Task} {depth : Nat} {tokens : List Token} {first second : Reading}
    (one : Run limits finish task depth tokens first)
    (other : Run limits finish task depth tokens second) : first = second :=
  one.read_eq.symm.trans other.read_eq

/-- What the parser answers for a reading of all the tokens. -/
def Reading.verdict : Reading → Except ParseFault Expr
  | .failed fault _ _ => .error fault
  | .done tree _ [] => .ok tree
  | .done _ _ (token :: _) => .error (surplus token)

end Parse

open Parse

variable {limits : Limits} {tokens : List Token}

/-- The answer of the parser is the verdict on its reading of an expression. -/
theorem parse_eq_verdict (limits : Limits) (tokens : List Token) :
    ∃ reading, Run limits (Parse.finish tokens) (.expression 0) 0 tokens reading ∧
      parse limits tokens = reading.verdict := by
  refine ⟨_, Task.run_read (.expression 0) 0 tokens, ?_⟩
  unfold parse Session.parse Reading.verdict Task.read
  dsimp only
  split <;> simp_all

theorem parse_eq_of_run {reading : Reading}
    (run : Run limits (Parse.finish tokens) (.expression 0) 0 tokens reading) :
    parse limits tokens = reading.verdict := by
  obtain ⟨other, run', verdict⟩ := parse_eq_verdict limits tokens
  rw [verdict, run.unique run']

/-- The parser accepts tokens if it reads a tree from all of them. -/
theorem parse_eq_ok_iff_run {tree : Expr} :
    parse limits tokens = .ok tree ↔
      ∃ last, Run limits (Parse.finish tokens) (.expression 0) 0 tokens (.done tree last []) := by
  constructor
  · intro accepted
    obtain ⟨reading, run, verdict⟩ := parse_eq_verdict limits tokens
    rw [accepted] at verdict
    rcases reading with ⟨tree', last, _ | ⟨token, rest⟩⟩ | ⟨fault, depth, rest⟩
    · cases verdict
      exact ⟨last, run⟩
    · cases verdict
    · cases verdict
  · rintro ⟨last, run⟩
    exact parse_eq_of_run run

/-- What a token behind an expression is blamed for. -/
theorem surplus_cases (token : Token) :
    token.lexeme = .symbol .closeParen ∧ surplus token = .unmatchedParenthesis token.span ∨
      token.lexeme ≠ .symbol .closeParen ∧
        surplus token = .trailingInput token.lexeme token.span := by
  by_cases closes : token.lexeme = .symbol .closeParen
  · exact .inl ⟨closes, if_pos closes⟩
  · exact .inr ⟨closes, if_neg closes⟩

/-- The parser rejects tokens for one that follows an expression, or because its run fails. -/
theorem exists_run_of_error {fault : ParseFault} (rejected : parse limits tokens = .error fault) :
    (∃ tree last token rest,
      Run limits (Parse.finish tokens) (.expression 0) 0 tokens (.done tree last (token :: rest)) ∧
        surplus token = fault) ∨
      ∃ depth rest,
        Run limits (Parse.finish tokens) (.expression 0) 0 tokens (.failed fault depth rest) := by
  obtain ⟨reading, run, verdict⟩ := parse_eq_verdict limits tokens
  rw [rejected] at verdict
  rcases reading with ⟨tree, last, _ | ⟨token, rest⟩⟩ | ⟨fault', depth, rest⟩
  · cases verdict
  · exact .inl ⟨tree, last, token, rest, run, (Except.error.inj verdict).symm⟩
  · cases verdict
    exact .inr ⟨depth, rest, run⟩

end Calculator
