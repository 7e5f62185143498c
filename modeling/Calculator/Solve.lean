import Calculator.Expr.Eval
import Calculator.Expr.Parse
import Calculator.Token.Scan

/-! # Solving an equation

From text to value, and the journal of what happened on the way.
-/

namespace Calculator

/-- The tree of an equation. -/
def parseEquation (limits : Limits) (equation : String) : Except Fault Expr :=
  match tokenize limits equation with
  | .error fault => .error (.scan fault)
  | .ok tokens =>
    match parse limits tokens with
    | .error fault => .error (.parse fault)
    | .ok tree => .ok tree

/-- The value of an equation, a finite number. -/
def solve (limits : Limits) (equation : String) : Except Fault Float :=
  match parseEquation limits equation with
  | .error fault => .error fault
  | .ok tree =>
    match tree.evaluate limits with
    | .error fault => .error (.eval fault)
    | .ok value => .ok value

/-- The parts of the calculator that write to the journal. -/
inductive Source where
  | scanner
  | parser
  | evaluator
  | solver
deriving DecidableEq, Repr

/-- How detailed a journal has to be to hold an entry. -/
inductive Level where
  | debug
  | trace
deriving DecidableEq, Repr

/-- The steps inside a stage are traces; the solver sums each stage up. -/
def Source.level : Source → Level
  | solver => .debug
  | scanner | parser | evaluator => .trace

/-- One line of a journal. -/
structure Entry where
  source : Source
  message : String
deriving DecidableEq, Repr

namespace Journal

/-- The tokens before the first fault, one entry each. -/
def ofItems : List Item → List Entry
  | .ok token :: rest =>
    let place := s!"{token.span.start}..{token.span.stop}"
    ⟨.scanner, s!"lexed {token.lexeme.description} at {place}"⟩ :: ofItems rest
  | _ => []

/-- What scanning an equation writes; one that is too long is not scanned. -/
def ofScan (limits : Limits) (equation : String) : List Entry :=
  if limits.maxLength < equation.utf8ByteSize then []
  else ofItems (scan limits.functions equation)

/-- What evaluating the tree of an equation writes; the value is noted even if it is not finite. -/
def ofValue (limits : Limits) (equation : String) (tree : Expr) : List Entry :=
  match tree.value limits.maxHeight 0 with
  | .error _ => []
  | .ok value =>
    let text := plainText value
    ⟨.evaluator, s!"evaluated to {text}"⟩ ::
      if value.isFinite then [⟨.solver, s!"evaluated {Text.shown equation} to {text}"⟩] else []

/-- What parsing the tokens of an equation writes, and what follows. -/
def ofTokens (limits : Limits) (equation : String) (tokens : List Token) : List Entry :=
  match parse limits tokens with
  | .error _ => []
  | .ok tree =>
    ⟨.parser, s!"parsed {tree.text}"⟩ ::
      ⟨.solver, s!"parsed {Text.shown equation} as {tree.text}"⟩ ::
      ofValue limits equation tree

end Journal

/-- The journal of solving an equation, up to where a fault ends it. -/
def journal (limits : Limits) (equation : String) : List Entry :=
  Journal.ofScan limits equation ++
    match tokenize limits equation with
    | .error _ => []
    | .ok tokens =>
      ⟨.solver, s!"tokenized {Text.shown equation} into {tokens.length} tokens"⟩ ::
        Journal.ofTokens limits equation tokens

end Calculator
