import Calculator.Expr.Eval

/-! # Values without a bound on height

The height of a tree matters for its value only if it passes the limit: evaluation under limits
that are large enough is evaluation without any.
-/

namespace Calculator.Expr

/-- The value of a tree, however tall it is. -/
def denote : Expr → Except EvalFault Float
  | literal value => .ok value
  | negate operand => do
    let operand ← operand.denote
    return -operand
  | binary op lhs rhs => do
    let lhs ← lhs.denote
    let rhs ← rhs.denote
    op.apply lhs rhs
  | call function argument =>
    match Builtin.ofName? function with
    | none => .error (.unknownFunction function)
    | some builtin => do
      let argument ← argument.denote
      return builtin.apply argument

variable {tree other : Expr} {maxHeight depth : Nat} {limits wide : Limits}

/-- A tree that ends above the limit has its value under the limit. -/
theorem value_eq_denote (room : depth + tree.height ≤ maxHeight) :
    tree.value maxHeight depth = tree.denote := by
  have above : ¬ maxHeight < depth := by omega
  induction tree generalizing depth with
  | literal value => rw [Expr.value, if_neg above, denote]
  | binary op lhs rhs ihLeft ihRight =>
    rw [height] at room
    rw [Expr.value, if_neg above, denote, ihLeft (by omega) (by omega),
      ihRight (by omega) (by omega)]
  | negate operand ih =>
    rw [height] at room
    rw [Expr.value, if_neg above, denote, ih (by omega) (by omega)]
  | call function argument ih =>
    rw [height] at room
    rw [Expr.value, if_neg above, denote]
    cases Builtin.ofName? function with
    | none => rfl
    | some builtin =>
      dsimp only
      rw [ih (by omega) (by omega)]

/-- Trees of the same value are evaluated to the same answer by limits that suffice for both. -/
theorem evaluate_congr (room : tree.height ≤ limits.maxHeight)
    (room' : other.height ≤ wide.maxHeight) (same : tree.denote = other.denote) :
    tree.evaluate limits = other.evaluate wide := by
  have whole : tree.value limits.maxHeight 0 = other.value wide.maxHeight 0 := by
    rw [value_eq_denote (by omega), value_eq_denote (by omega), same]
  rw [evaluate, evaluate, whole]

end Calculator.Expr
