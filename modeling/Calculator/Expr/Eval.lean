import Calculator.Builtin
import Calculator.Expr
import Calculator.Fault
import Calculator.Limits

/-! # Evaluation

The value of an expression in binary64 arithmetic. Operands are evaluated from left to right, a
function is looked up before its argument is evaluated, and a path of more edges than the limit
allows ends the evaluation where the limit is passed.
-/

namespace Calculator

/-- The value of an operation; only a division can fail, by a zero of either sign. -/
def BinaryOp.apply (op : BinaryOp) (lhs rhs : Float) : Except EvalFault Float :=
  match op with
  | add => .ok (lhs + rhs)
  | sub => .ok (lhs - rhs)
  | mul => .ok (lhs * rhs)
  | div => if rhs == 0.0 then .error .divisionByZero else .ok (lhs / rhs)
  | pow => .ok (lhs ^ rhs)

namespace Expr

/-- The value, finite or not, of a tree whose root hangs `depth` edges down. -/
def value (maxHeight depth : Nat) (tree : Expr) : Except EvalFault Float :=
  if maxHeight < depth then .error (.tooDeep maxHeight)
  else
    match tree with
    | literal value => .ok value
    | negate operand => do
      let operand ← operand.value maxHeight (depth + 1)
      return -operand
    | binary op lhs rhs => do
      let lhs ← lhs.value maxHeight (depth + 1)
      let rhs ← rhs.value maxHeight (depth + 1)
      op.apply lhs rhs
    | call function argument =>
      match Builtin.ofName? function with
      | none => .error (.unknownFunction function)
      | some builtin => do
        let argument ← argument.value maxHeight (depth + 1)
        return builtin.apply argument

/-- The value of a tree, if it is a finite number. -/
def evaluate (limits : Limits) (tree : Expr) : Except EvalFault Float :=
  match tree.value limits.maxHeight 0 with
  | .error fault => .error fault
  | .ok value => if value.isFinite then .ok value else .error (.nonFinite value)

end Expr

end Calculator
