import Calculator.Expr
import Calculator.Fault
import Calculator.Limits

/-! # Reading an expression from its tokens

Recursive descent by binding powers. An operator takes the operand on its left if its left power
is at least that of the surrounding expression; its right power is that of the expression to its
right. A minus sign before an operand binds tighter than products and looser than powers, also
when it was scanned as part of a number.

Parentheses, calls, signs and exponents each open a level. A level that a fault leaves open stays
open: `Reading.failed` carries the number of open levels and the tokens not yet looked at, so that
reading can go on behind the fault.
-/

namespace Calculator

/-- How strongly an operator binds the operand on its left. -/
def BinaryOp.leftPower : BinaryOp → Nat
  | add | sub => 1
  | mul | div => 3
  | pow => 8

/-- How strongly an operator binds the operand on its right; only powers group to the right. -/
def BinaryOp.rightPower : BinaryOp → Nat
  | add | sub => 2
  | mul | div => 4
  | pow => 7

/-- How strongly a sign binds its operand. -/
def signPower : Nat := 5

/-- The operator a lexeme stands for after an operand. -/
def Lexeme.operator? : Lexeme → Option BinaryOp
  | symbol sign => BinaryOp.ofSymbol? sign
  | _ => none

namespace Parse

/-- What becomes of the tokens of an expression: its tree, the span of its last token and the
tokens after it, or a fault, the levels it leaves open and the tokens behind it. -/
inductive Reading where
  | done (tree : Expr) (last : Span) (rest : List Token)
  | failed (fault : ParseFault) (depth : Nat) (rest : List Token)
deriving DecidableEq, Repr

namespace Reading

/-- A reading that leaves fewer than `bound` tokens if it succeeds. -/
def Within (bound : Nat) : Reading → Prop
  | done _ _ rest => rest.length < bound
  | failed .. => True

/-- Changes the tree of a reading. -/
def map (change : Expr → Expr) : Reading → Reading
  | done tree last rest => done (change tree) last rest
  | failed fault depth rest => failed fault depth rest

/-- Demands the closing parenthesis for one opened at `opening`, at a level `depth`. -/
def close (opening : Span) (depth : Nat) : Reading → Reading
  | failed fault depth rest => failed fault depth rest
  | done _ _ [] => failed (.unclosedParenthesis opening) depth []
  | done tree _ (token :: rest) =>
    if token.lexeme = .symbol .closeParen then done tree token.span rest
    else failed (.unexpectedToken .closeParen token.lexeme token.span) depth rest

theorem Within.mono {reading : Reading} {small large : Nat} (within : reading.Within small)
    (le : small ≤ large) : reading.Within large := by
  cases reading with
  | done tree last rest => exact Nat.lt_of_lt_of_le within le
  | failed fault depth rest => trivial

theorem Within.map {reading : Reading} {bound : Nat} (within : reading.Within bound)
    (change : Expr → Expr) : (reading.map change).Within bound := by
  cases reading with
  | done tree last rest => exact within
  | failed fault depth rest => trivial

theorem Within.close {reading : Reading} {bound : Nat} (within : reading.Within bound)
    (opening : Span) (depth : Nat) : (reading.close opening depth).Within bound := by
  cases reading with
  | failed fault depth rest => trivial
  | done tree last rest =>
    cases rest with
    | nil => trivial
    | cons token rest =>
      change (if token.lexeme = .symbol .closeParen then done tree token.span rest
        else failed (.unexpectedToken .closeParen token.lexeme token.span) depth rest).Within bound
      split
      · exact Nat.lt_of_succ_lt within
      · trivial

end Reading

/-- Whether a power follows. -/
def startsWithCaret : List Token → Bool
  | token :: _ => token.lexeme = .symbol .caret
  | [] => false

mutual

/-- Reads one operand: a number, a signed operand, a call or an expression in parentheses.
`finish` is the empty span at the end of the input. -/
def operand (limits : Limits) (finish : Span) (depth : Nat) (tokens : List Token) :
    { reading : Reading // reading.Within tokens.length } :=
  match tokens with
  | [] => ⟨.failed (.unexpectedEnd .operand finish) depth [], trivial⟩
  | ⟨.number value, span⟩ :: rest =>
    if Binary64.isNegative value && startsWithCaret rest then
      if limits.maxDepth < depth + 1 then
        ⟨.failed (.tooComplex limits.maxDepth span) (depth + 1) rest, trivial⟩
      else
        let power := extend limits finish (depth + 1) signPower (.literal (-value)) span rest
        ⟨power.1.map .negate, power.2.map _⟩
    else ⟨.done (.literal value) span rest, Nat.lt_succ_self _⟩
  | ⟨.function name, _⟩ :: rest =>
    match rest with
    | [] => ⟨.failed (.missingParenthesis name finish) depth [], trivial⟩
    | ⟨lexeme, span⟩ :: rest =>
      if lexeme = .symbol .openParen then
        let inner := nested limits finish (depth + 1) span 0 rest
        ⟨(inner.1.close span (depth + 1)).map (.call name),
          ((inner.2.mono (Nat.le_add_right _ 2)).close _ _).map _⟩
      else ⟨.failed (.missingParenthesis name span) depth rest, trivial⟩
  | ⟨.symbol .minus, span⟩ :: rest =>
    let inner := nested limits finish (depth + 1) span signPower rest
    ⟨inner.1.map .negate, (inner.2.mono (Nat.le_succ _)).map _⟩
  | ⟨.symbol .openParen, span⟩ :: rest =>
    let inner := nested limits finish (depth + 1) span 0 rest
    ⟨inner.1.close span (depth + 1), (inner.2.mono (Nat.le_succ _)).close _ _⟩
  | ⟨.symbol sign, span⟩ :: rest =>
    ⟨.failed (.unexpectedToken .operand (.symbol sign) span) depth rest, trivial⟩
termination_by 3 * tokens.length

/-- Reads an expression whose operators bind at least as strongly as `power`. -/
def expression (limits : Limits) (finish : Span) (depth power : Nat) (tokens : List Token) :
    { reading : Reading // reading.Within tokens.length } :=
  match operand limits finish depth tokens with
  | ⟨.failed fault depth rest, _⟩ => ⟨.failed fault depth rest, trivial⟩
  | ⟨.done lhs last rest, shorter⟩ =>
    if limits.maxHeight < lhs.height then
      ⟨.failed (.tooTall limits.maxHeight last) depth rest, trivial⟩
    else
      let whole := extend limits finish depth power lhs last rest
      ⟨whole.1, whole.2.mono shorter⟩
termination_by 3 * tokens.length + 1
decreasing_by
  · omega
  · have : rest.length < tokens.length := shorter
    omega

/-- Reads an expression inside the level `depth`, opened by the token at `opening`. -/
def nested (limits : Limits) (finish : Span) (depth : Nat) (opening : Span) (power : Nat)
    (tokens : List Token) : { reading : Reading // reading.Within tokens.length } :=
  if limits.maxDepth < depth then
    ⟨.failed (.tooComplex limits.maxDepth opening) depth tokens, trivial⟩
  else expression limits finish depth power tokens
termination_by 3 * tokens.length + 2

/-- Reads the operators that extend the expression `lhs`, which ends at `last`. -/
def extend (limits : Limits) (finish : Span) (depth power : Nat) (lhs : Expr) (last : Span)
    (tokens : List Token) : { reading : Reading // reading.Within (tokens.length + 1) } :=
  match tokens with
  | [] => ⟨.done lhs last [], Nat.lt_succ_self _⟩
  | token :: rest =>
    match token.lexeme.operator? with
    | none => ⟨.done lhs last (token :: rest), Nat.lt_succ_self _⟩
    | some op =>
      if op.leftPower < power then ⟨.done lhs last (token :: rest), Nat.lt_succ_self _⟩
      else
        let right :=
          if op = .pow then nested limits finish (depth + 1) token.span op.rightPower rest
          else expression limits finish depth op.rightPower rest
        match right with
        | ⟨.failed fault depth rest, _⟩ => ⟨.failed fault depth rest, trivial⟩
        | ⟨.done rhs last after, shorter⟩ =>
          if limits.maxHeight < (Expr.binary op lhs rhs).height then
            ⟨.failed (.tooTall limits.maxHeight token.span) depth after, trivial⟩
          else
            let whole := extend limits finish depth power (.binary op lhs rhs) last after
            ⟨whole.1, whole.2.mono (Nat.le_succ_of_le (Nat.succ_le_succ (Nat.le_of_lt shorter)))⟩
termination_by 3 * tokens.length
decreasing_by
  all_goals simp only [List.length_cons]
  · omega
  · omega
  · have : after.length < rest.length := shorter
    omega

end

/-- The tokens still to be read, and how many levels earlier faults left open. -/
structure Session where
  rest : List Token
  depth : Nat
deriving DecidableEq, Repr

/-- The fault of a token that follows a complete expression. -/
def surplus (token : Token) : ParseFault :=
  if token.lexeme = .symbol .closeParen then .unmatchedParenthesis token.span
  else .trailingInput token.lexeme token.span

/-- Reads an expression that should use up the tokens of a session. A token that follows it is
passed over with a fault. -/
def Session.parse (limits : Limits) (finish : Span) (session : Session) :
    Except ParseFault Expr × Session :=
  match (expression limits finish session.depth 0 session.rest).1 with
  | .failed fault depth rest => (.error fault, ⟨rest, depth⟩)
  | .done tree _ [] => (.ok tree, ⟨[], session.depth⟩)
  | .done _ _ (token :: rest) => (.error (surplus token), ⟨rest, session.depth⟩)

/-- The empty span behind the last token, at the start if there is none. -/
def finish (tokens : List Token) : Span :=
  .point (tokens.getLast?.elim 0 (·.span.stop))

end Parse

/-- The tree of the expression that a list of tokens spells. -/
def parse (limits : Limits) (tokens : List Token) : Except ParseFault Expr :=
  (Parse.Session.parse limits (Parse.finish tokens) ⟨tokens, 0⟩).1

end Calculator
