import Calculator.Proofs.Expr.Equation
import Calculator.Proofs.Expr.Value
import Calculator.Proofs.Number.Sign

/-! # What expressions denote

The rules by which an expression comes to a value or to a fault, from left to right and with no
limit on its height. Evaluation under a limit answers as the rules say whenever the tree is no
taller than the limit. Beyond the limit it comes to no value: either it is cut off, or a fault
stops it before. The trees of equations are never cut off, since the parser keeps the same limit.
-/

namespace Calculator

/-- Whether a fault can end an evaluation before its root has a value. -/
def EvalFault.Stops (maxHeight : Nat) : EvalFault → Prop
  | tooDeep bound => bound = maxHeight
  | divisionByZero | unknownFunction _ => True
  | nonFinite _ => False

namespace Expr

/-- What an expression comes to, a value or a fault. Both operands are evaluated, the left one
first; a function is looked up before its argument is evaluated. -/
inductive Denotes : Expr → Except EvalFault Float → Prop
  | literal (value : Float) : Denotes (.literal value) (.ok value)
  | negate {operand value} (inner : Denotes operand (.ok value)) :
    Denotes (.negate operand) (.ok (-value))
  | negateFails {operand fault} (inner : Denotes operand (.error fault)) :
    Denotes (.negate operand) (.error fault)
  | leftFails {op lhs rhs fault} (left : Denotes lhs (.error fault)) :
    Denotes (.binary op lhs rhs) (.error fault)
  | rightFails {op lhs rhs x fault} (left : Denotes lhs (.ok x))
      (right : Denotes rhs (.error fault)) : Denotes (.binary op lhs rhs) (.error fault)
  | sum {lhs rhs x y} (left : Denotes lhs (.ok x)) (right : Denotes rhs (.ok y)) :
    Denotes (.binary .add lhs rhs) (.ok (x + y))
  | difference {lhs rhs x y} (left : Denotes lhs (.ok x)) (right : Denotes rhs (.ok y)) :
    Denotes (.binary .sub lhs rhs) (.ok (x - y))
  | product {lhs rhs x y} (left : Denotes lhs (.ok x)) (right : Denotes rhs (.ok y)) :
    Denotes (.binary .mul lhs rhs) (.ok (x * y))
  | quotient {lhs rhs x y} (left : Denotes lhs (.ok x)) (right : Denotes rhs (.ok y))
      (positive : y ≠ 0.0) (negative : y ≠ -0.0) : Denotes (.binary .div lhs rhs) (.ok (x / y))
  | divisionByZero {lhs rhs x y} (left : Denotes lhs (.ok x)) (right : Denotes rhs (.ok y))
      (zero : y = 0.0 ∨ y = -0.0) : Denotes (.binary .div lhs rhs) (.error .divisionByZero)
  | power {lhs rhs x y} (left : Denotes lhs (.ok x)) (right : Denotes rhs (.ok y)) :
    Denotes (.binary .pow lhs rhs) (.ok (x ^ y))
  | unknownFunction {function} (argument : Expr) (unknown : Builtin.ofName? function = none) :
    Denotes (.call function argument) (.error (.unknownFunction function))
  | callFails {function builtin argument fault} (known : Builtin.ofName? function = some builtin)
      (inner : Denotes argument (.error fault)) : Denotes (.call function argument) (.error fault)
  | call {function builtin argument x} (known : Builtin.ofName? function = some builtin)
      (inner : Denotes argument (.ok x)) : Denotes (.call function argument) (.ok (builtin.apply x))

/-- The answer for a whole expression: what it comes to, if that is not a value that is not
finite. -/
inductive Answers (tree : Expr) : Except EvalFault Float → Prop
  | finite {value} (denotes : tree.Denotes (.ok value)) (finite : value.isFinite = true) :
    Answers tree (.ok value)
  | nonFinite {value} (denotes : tree.Denotes (.ok value)) (infinite : value.isFinite = false) :
    Answers tree (.error (.nonFinite value))
  | fails {fault} (denotes : tree.Denotes (.error fault)) : Answers tree (.error fault)

variable {tree lhs rhs argument : Expr} {op : BinaryOp} {x y : Float} {function : String}
  {builtin : Builtin} {fault : EvalFault} {result answer : Except EvalFault Float}
  {maxHeight depth : Nat} {limits : Limits}

theorem apply_div_of_zero (zero : y = 0.0 ∨ y = -0.0) :
    BinaryOp.div.apply x y = .error .divisionByZero :=
  if_pos (Binary64.beq_zero_iff.mpr zero)

theorem apply_div_of_nonzero (positive : y ≠ 0.0) (negative : y ≠ -0.0) :
    BinaryOp.div.apply x y = .ok (x / y) := by
  refine if_neg fun zero => ?_
  rcases Binary64.beq_zero_iff.mp zero with same | same
  · exact positive same
  · exact negative same

/-- An operation on two values comes to what the rules for its operator say. -/
theorem denotes_apply (left : lhs.Denotes (.ok x)) (right : rhs.Denotes (.ok y)) :
    (binary op lhs rhs).Denotes (op.apply x y) := by
  cases op with
  | add => exact .sum left right
  | sub => exact .difference left right
  | mul => exact .product left right
  | pow => exact .power left right
  | div =>
    by_cases zero : y = 0.0 ∨ y = -0.0
    · rw [apply_div_of_zero zero]
      exact .divisionByZero left right zero
    · obtain ⟨positive, negative⟩ := not_or.mp zero
      rw [apply_div_of_nonzero positive negative]
      exact .quotient left right positive negative

theorem denotes_denote (tree : Expr) : tree.Denotes tree.denote := by
  induction tree with
  | literal value => exact .literal value
  | negate operand ih =>
    rw [denote]
    cases inner : operand.denote with
    | error fault => exact .negateFails (inner ▸ ih)
    | ok value => exact .negate (inner ▸ ih)
  | binary op lhs rhs ihLeft ihRight =>
    rw [denote]
    cases left : lhs.denote with
    | error fault => exact .leftFails (left ▸ ihLeft)
    | ok x =>
      cases right : rhs.denote with
      | error fault => exact .rightFails (left ▸ ihLeft) (right ▸ ihRight)
      | ok y => exact denotes_apply (left ▸ ihLeft) (right ▸ ihRight)
  | call function argument ih =>
    rw [denote]
    cases known : Builtin.ofName? function with
    | none => exact .unknownFunction argument known
    | some builtin =>
      cases inner : argument.denote with
      | error fault => exact .callFails known (inner ▸ ih)
      | ok x => exact .call known (inner ▸ ih)

theorem Denotes.denote_eq (denotes : tree.Denotes result) : tree.denote = result := by
  induction denotes with
  | literal value => rfl
  | negate _ ih | negateFails _ ih | leftFails _ ih =>
    rw [denote, ih]
    rfl
  | rightFails _ _ ihLeft ihRight | sum _ _ ihLeft ihRight | difference _ _ ihLeft ihRight
  | product _ _ ihLeft ihRight | power _ _ ihLeft ihRight =>
    rw [denote, ihLeft, ihRight]
    rfl
  | quotient _ _ positive negative ihLeft ihRight =>
    rw [denote, ihLeft, ihRight]
    exact apply_div_of_nonzero positive negative
  | divisionByZero _ _ zero ihLeft ihRight =>
    rw [denote, ihLeft, ihRight]
    exact apply_div_of_zero zero
  | unknownFunction argument unknown => rw [denote, unknown]
  | callFails known _ ih | call known _ ih =>
    rw [denote, known, ih]
    rfl

/-- The rules lead to one result for each expression. -/
theorem denotes_iff : tree.Denotes result ↔ tree.denote = result :=
  ⟨Denotes.denote_eq, fun same => same ▸ tree.denotes_denote⟩

/-- A tree that is no taller than the limit is answered as the rules say. -/
theorem evaluate_eq_iff_answers (room : tree.height ≤ limits.maxHeight) :
    tree.evaluate limits = answer ↔ tree.Answers answer := by
  have whole : tree.value limits.maxHeight 0 = tree.denote := value_eq_denote (by omega)
  rw [evaluate, whole]
  constructor
  · rintro rfl
    cases denotes : tree.denote with
    | error fault => exact .fails (denotes_iff.mpr denotes)
    | ok value =>
      dsimp only
      split
      case isTrue finite => exact .finite (denotes_iff.mpr denotes) finite
      case isFalse infinite =>
        exact .nonFinite (denotes_iff.mpr denotes) (Bool.eq_false_iff.mpr infinite)
  · intro answers
    cases answers with
    | finite denotes finite =>
      rw [denotes.denote_eq]
      exact if_pos finite
    | nonFinite denotes infinite =>
      rw [denotes.denote_eq]
      exact if_neg (Bool.eq_false_iff.mp infinite)
    | fails denotes => rw [denotes.denote_eq]

/-- The rules know no limit. -/
theorem Denotes.ne_tooDeep {bound : Nat} (denotes : tree.Denotes result) :
    result ≠ .error (.tooDeep bound) := by
  induction denotes with
  | negateFails _ ih | leftFails _ ih | rightFails _ _ _ ih | callFails _ _ ih => exact ih
  | _ => rintro ⟨⟩

theorem Answers.ne_tooDeep {bound : Nat} (answers : tree.Answers answer) :
    answer ≠ .error (.tooDeep bound) := by
  cases answers with
  | fails denotes => exact denotes.ne_tooDeep
  | _ => rintro ⟨⟩

theorem apply_error (failed : op.apply x y = .error fault) : fault = .divisionByZero := by
  cases op with
  | div =>
    unfold BinaryOp.apply at failed
    dsimp only at failed
    split at failed
    · cases failed
      rfl
    · cases failed
  | add | sub | mul | pow => cases failed

/-- What can come of a tree whose lowest literal hangs `bottom` edges down: a value only within the
limit, or a fault that stops it. -/
def Comes (maxHeight bottom : Nat) : Except EvalFault Float → Prop
  | .ok _ => bottom ≤ maxHeight
  | .error fault => fault.Stops maxHeight

theorem value_comes (tree : Expr) (maxHeight depth : Nat) :
    Comes maxHeight (depth + tree.height) (tree.value maxHeight depth) := by
  induction tree generalizing depth with
  | literal value =>
    rw [Expr.value]
    split
    · rfl
    case isFalse within => exact Nat.le_of_not_lt within
  | negate operand ih =>
    rw [Expr.value]
    split
    · rfl
    · have low := ih (depth + 1)
      cases inner : operand.value maxHeight (depth + 1) <;> rw [inner] at low
      · exact low
      · change depth + 1 + operand.height ≤ maxHeight at low
        change depth + (operand.height + 1) ≤ maxHeight
        omega
  | binary op lhs rhs ihLeft ihRight =>
    rw [Expr.value]
    split
    · rfl
    · have low := ihLeft (depth + 1)
      cases left : lhs.value maxHeight (depth + 1) <;> rw [left] at low
      case error => exact low
      have low' := ihRight (depth + 1)
      cases right : rhs.value maxHeight (depth + 1) <;> rw [right] at low'
      case error => exact low'
      case ok x y =>
        change Comes maxHeight _ (op.apply x y)
        cases applied : op.apply x y with
        | error fault =>
          rw [apply_error applied]
          trivial
        | ok value =>
          simp only [Comes, height] at low low' ⊢
          omega
  | call function argument ih =>
    rw [Expr.value]
    split
    · rfl
    · split
      · trivial
      · have low := ih (depth + 1)
        cases inner : argument.value maxHeight (depth + 1) <;> rw [inner] at low
        · exact low
        · change depth + 1 + argument.height ≤ maxHeight at low
          change depth + (argument.height + 1) ≤ maxHeight
          omega

/-- A tree that is taller than the limit is stopped by a fault. -/
theorem evaluate_of_tall (tall : limits.maxHeight < tree.height) :
    ∃ fault, tree.evaluate limits = .error fault ∧ fault.Stops limits.maxHeight := by
  have comes := tree.value_comes limits.maxHeight 0
  rw [evaluate]
  cases whole : tree.value limits.maxHeight 0 <;> rw [whole] at comes
  case error fault => exact ⟨fault, rfl, comes⟩
  case ok value =>
    simp only [Comes] at comes
    omega

end Expr

section

variable {limits : Limits} {equation : String} {value : Float}

/-- The value of an equation is what its tree is answered with. -/
theorem exists_answers_of_solve (solved : solve limits equation = .ok value) :
    ∃ tree, parseEquation limits equation = .ok tree ∧ tree.Answers (.ok value) := by
  unfold solve at solved
  split at solved
  · cases solved
  case h_2 tree accepted =>
    have room := height_le_of_parseEquation accepted
    split at solved
    · cases solved
    case h_2 value' evaluated =>
      cases solved
      exact ⟨tree, accepted, (Expr.evaluate_eq_iff_answers room).mp evaluated⟩

/-- The value of an equation is that of its tree. -/
theorem exists_tree_of_solve (solved : solve limits equation = .ok value) :
    ∃ tree, parseEquation limits equation = .ok tree ∧ tree.Denotes (.ok value) := by
  obtain ⟨tree, accepted, answers⟩ := exists_answers_of_solve solved
  cases answers with
  | finite denotes => exact ⟨tree, accepted, denotes⟩

/-- The value of an equation is finite. -/
theorem isFinite_of_solve (solved : solve limits equation = .ok value) :
    value.isFinite = true := by
  obtain ⟨tree, -, answers⟩ := exists_answers_of_solve solved
  cases answers with
  | finite _ finite => exact finite

end

/-- The limit that cuts off evaluation is the height of the tree: up to it a tree is answered as the
rules say, beyond it a fault stops the evaluation. The tree of an equation is never cut off. -/
theorem evaluate_guard (limits : Limits) (tree : Expr) (equation : String) :
    (tree.height ≤ limits.maxHeight →
      (∀ answer, tree.evaluate limits = answer ↔ tree.Answers answer) ∧
        ∀ bound, tree.evaluate limits ≠ .error (.tooDeep bound)) ∧
    (limits.maxHeight < tree.height →
      tree.evaluate limits = .error (.tooDeep limits.maxHeight) ∨
        tree.evaluate limits = .error .divisionByZero ∨
        ∃ name, tree.evaluate limits = .error (.unknownFunction name)) ∧
    ∀ bound, solve limits equation ≠ .error (.eval (.tooDeep bound)) := by
  refine ⟨fun room => ⟨fun answer => Expr.evaluate_eq_iff_answers room, fun bound cut => ?_⟩,
    fun tall => ?_, fun bound cut => ?_⟩
  · exact ((Expr.evaluate_eq_iff_answers room).mp cut).ne_tooDeep rfl
  · obtain ⟨fault, failed, stops⟩ := Expr.evaluate_of_tall tall
    cases fault with
    | tooDeep bound =>
      cases stops
      exact .inl failed
    | divisionByZero => exact .inr (.inl failed)
    | unknownFunction name => exact .inr (.inr ⟨name, failed⟩)
    | nonFinite value => exact stops.elim
  · unfold solve at cut
    split at cut
    case h_1 fault rejected =>
      cases cut
      unfold parseEquation at rejected
      split at rejected
      · cases rejected
      · split at rejected <;> cases rejected
    case h_2 tree accepted =>
      have room := height_le_of_parseEquation accepted
      split at cut
      case h_1 fault failed =>
        cases cut
        exact ((Expr.evaluate_eq_iff_answers room).mp failed).ne_tooDeep rfl
      · cases cut

/-- A quotient by zero is just within a limit of one edge; twice negated numbers are beyond it. -/
theorem evaluate_guard_of_one_edge :
    let limits : Limits := { maxHeight := 1 }
    let quotient : Expr := .binary .div (.literal 1) (.literal (-0.0))
    let twice : Expr := .negate (.negate (.literal 1))
    (quotient.height ≤ limits.maxHeight ∧ quotient.Answers (.error .divisionByZero) ∧
      quotient.evaluate limits = .error .divisionByZero) ∧
    (limits.maxHeight < twice.height ∧ twice.evaluate limits = .error (.tooDeep 1)) := by
  intro limits quotient twice
  have answers : quotient.Answers (.error .divisionByZero) :=
    .fails (.divisionByZero (.literal 1) (.literal (-0.0)) (.inr rfl))
  have within := (evaluate_guard limits quotient "1/-0").1 (by decide)
  have beyond := (evaluate_guard limits twice "--1").2.1 (by decide)
  refine ⟨⟨by decide, answers, (within.1 _).mpr answers⟩, by decide, ?_⟩
  rcases beyond with cut | zero | ⟨name, unknown⟩
  · exact cut
  · cases zero
  · cases unknown

end Calculator
