import Calculator.Expr.Eval
import Calculator.Steps

/-! # The evaluator and its counter

The evaluator counts the edges between the root and where it is: one more on the way down to a
child, one less on the way back with its value. After a fault there is no way back, and the count
stays as it is.

`Expr.value` hands the number down instead. That both come to the same, and that a value leaves
nothing counted, is `Evaluator.outcome_evaluate`.
-/

namespace Calculator.Evaluator

/-- A step of an evaluator, which counts edges. -/
abbrev Step (α : Type) : Type := Steps EvalFault Nat α

section Steps

variable (maxHeight top : Nat)

/-- Evaluates a child, one edge further down. -/
def child (eval : Step Float) : Step Float := do
  let depth ← Counter.raise top (← get)
  set depth
  if maxHeight < depth then
    throw (.tooDeep maxHeight)
  let value ← eval
  set (← Counter.lower (← get))
  return value

/-- The value of a tree. -/
def eval : Expr → Step Float
  | .literal value => return value
  | .negate operand => return -(← child maxHeight top (eval operand))
  | .binary op lhs rhs => do
    let lhs ← child maxHeight top (eval lhs)
    let rhs ← child maxHeight top (eval rhs)
    MonadExcept.ofExcept (op.apply lhs rhs)
  | .call function argument =>
    match Builtin.ofName? function with
    | none => throw (.unknownFunction function)
    | some builtin => return builtin.apply (← child maxHeight top (eval argument))

end Steps

/-- The value of a tree, if it is a finite number; `top` is the largest number that can be counted
to. -/
def evaluate (limits : Limits) (top : Nat) (tree : Expr) : Step Float := do
  let value ← eval limits.maxHeight top tree
  if value.isFinite then return value else throw (.nonFinite value)

end Calculator.Evaluator
