import Calculator.Expr.Parse
import Calculator.Steps

/-! # The parser and its counters

The parser as an object: it stands at a token, and it counts the levels that are open. A level is
counted when it is opened and counted off when it is closed again, but not if a fault comes in
between. The height of the tree that operators extend is counted along, too.

`Parse.Session.parse` hands the number of levels down from one function to the next instead, so that
each of them finds it as it was. That both come to the same, with the same number of open levels in
the end, is `Parser.outcome_parse`.
-/

namespace Calculator

/-- A parser at work: how many tokens it has passed, and how many levels are open. -/
structure Parser where
  cursor : Nat
  depth : Nat
deriving DecidableEq, Repr

namespace Parser

open Parse (finish surplus)

/-- What a parser is given: its tokens and limits, and the largest number that a counter holds.
There are never more tokens than that. -/
structure Input where
  tokens : List Token
  limits : Limits
  top : Nat
  fits : tokens.length ≤ top

/-- A step of a parser. -/
abbrev Step (α : Type) : Type := Steps ParseFault Parser α

/-- A parser before its first token. -/
def new : Parser := ⟨0, 0⟩

section Steps

variable (input : Input)

/-- The token that comes next. -/
def peek : Step (Option Token) := do
  return input.tokens[(← get).cursor]?

/-- Passes the token that comes next, if there is one. -/
def next : Step (Option Token) := do
  match ← peek input with
  | none => return none
  | some token =>
    let parser ← get
    set { parser with cursor := ← Counter.raise input.top parser.cursor }
    return some token

/-- Opens a level, which the token at `span` starts. -/
def enter (span : Span) : Step Unit := do
  let parser ← get
  let depth ← Counter.raise input.top parser.depth
  set { parser with depth }
  if input.limits.maxDepth < depth then
    throw (.tooComplex input.limits.maxDepth span)

/-- Closes a level. -/
def leave : Step Unit := do
  let parser ← get
  set { parser with depth := ← Counter.lower parser.depth }

/-- Ends with a fault where a tree is too tall. -/
def checkHeight (height : Nat) (span : Span) : Step Unit := do
  if input.limits.maxHeight < height then
    throw (.tooTall input.limits.maxHeight span)

/-- The span of the token passed last, or the end of the input if there is none. -/
def previousSpan : Step Span := do
  let last := (Counter.lower (← get).cursor).bind fun index => input.tokens[index]?
  return last.elim (finish input.tokens) Token.span

/-- Whether the token that comes next is a symbol. -/
def nextIs (sign : Symbol) : Step Bool := do
  return (← peek input).any (·.lexeme = .symbol sign)

/-- Passes the closing parenthesis for the one at `opening`. -/
def expectClose (opening : Span) : Step Unit := do
  match ← next input with
  | none => throw (.unclosedParenthesis opening)
  | some token =>
    if token.lexeme = .symbol .closeParen then return
    else throw (.unexpectedToken .closeParen token.lexeme token.span)

mutual

/-- Reads an expression whose operators bind at least as strongly as `power`. -/
def Input.expression (input : Input) (power : Nat) : Step Expr := do
  let lhs ← input |>.operand
  input |>.operators lhs power
partial_fixpoint

/-- Reads one operand: a number, a signed operand, a call or an expression in parentheses. -/
def Input.operand (input : Input) : Step Expr := do
  match ← next input with
  | none => throw (.unexpectedEnd .operand (finish input.tokens))
  | some ⟨.number value, span⟩ =>
    if Binary64.isNegative value && (← nextIs input .caret) then
      enter input span
      let magnitude ← input |>.operators (.literal (-value)) signPower
      leave
      return .negate magnitude
    else return .literal value
  | some ⟨.symbol .minus, span⟩ =>
    enter input span
    let inner ← input |>.expression signPower
    leave
    return .negate inner
  | some ⟨.symbol .openParen, span⟩ =>
    enter input span
    let inner ← input |>.expression 0
    expectClose input span
    leave
    return inner
  | some ⟨.function name, _⟩ =>
    match ← next input with
    | none => throw (.missingParenthesis name (finish input.tokens))
    | some opening =>
      if opening.lexeme = .symbol .openParen then
        enter input opening.span
        let argument ← input |>.expression 0
        expectClose input opening.span
        leave
        return .call name argument
      else throw (.missingParenthesis name opening.span)
  | some ⟨found, span⟩ => throw (.unexpectedToken .operand found span)
partial_fixpoint

/-- Reads the operators that extend an expression that has just been read. -/
def Input.operators (input : Input) (lhs : Expr) (power : Nat) : Step Expr := do
  checkHeight input lhs.height (← previousSpan input)
  input |>.extend lhs lhs.height power
partial_fixpoint

/-- Reads the operators that extend an expression of some height. -/
def Input.extend (input : Input) (lhs : Expr) (height power : Nat) : Step Expr := do
  match ← peek input with
  | none => return lhs
  | some token =>
    match token.lexeme.operator? with
    | none => return lhs
    | some op =>
      if op.leftPower < power then return lhs
      else
        let _ ← next input
        let rhs ← (if op = .pow then do
            enter input token.span
            let rhs ← input |>.expression op.rightPower
            leave
            return rhs
          else input |>.expression op.rightPower)
        let height := max height rhs.height + 1
        checkHeight input height token.span
        input |>.extend (.binary op lhs rhs) height power
partial_fixpoint

end

/-- Reads an expression that should use up the tokens. -/
def parse : Step Expr := do
  let tree ← input.expression 0
  match ← next input with
  | none => return tree
  | some token => throw (surplus token)

end Steps

end Parser

end Calculator
