import Calculator.Expr.Evaluator

/-! # What the counter of an evaluator counts

An evaluator finds the value that is found without a counter. It counts as many edges as lie above
it, so that it never counts further than a tree is high, and it has counted them all off when it
comes back with a value.
-/

namespace Calculator.Evaluator

variable {maxHeight top depth : Nat} {tree : Expr} {steps : Step Float}
  {answer : Except EvalFault Float}

/-- What comes of steps that count `depth` edges: an answer, and no fewer edges counted, nor more
with a value. -/
def Counts (steps : Step Float) (depth : Nat) (answer : Except EvalFault Float) : Prop :=
  ∃ counted, steps.outcome depth = some (answer, counted) ∧ depth ≤ counted ∧
    ∀ value, answer = .ok value → counted = depth

namespace Counts

theorem throw (fault : EvalFault) : Counts (MonadExcept.throw fault) depth (.error fault) :=
  ⟨depth, rfl, Nat.le_refl _, fun _ same => by cases same⟩

/-- Steps go on behind others only if these have a value, and then nothing of them is left
counted. -/
theorem bind {more : Float → Step Float} {goesOn : Float → Except EvalFault Float}
    (first : Counts steps depth answer) (rest : ∀ value, Counts (more value) depth (goesOn value)) :
    Counts (steps >>= more) depth (answer >>= goesOn) := by
  obtain ⟨counted, outcome, above, settles⟩ := first
  cases answer with
  | error fault =>
    exact ⟨counted, Steps.outcome_bind_of_error outcome, above, fun _ same => by cases same⟩
  | ok value =>
    obtain rfl := settles value rfl
    obtain ⟨counted', outcome', above', settles'⟩ := rest value
    exact ⟨counted', (Steps.outcome_bind_of_ok outcome).trans outcome', above', settles'⟩

theorem pure (value : Float) : Counts (Pure.pure value) depth (.ok value) :=
  ⟨depth, rfl, Nat.le_refl _, fun _ _ => rfl⟩

theorem ofExcept (answer : Except EvalFault Float) :
    Counts (MonadExcept.ofExcept answer) depth answer := by
  cases answer with
  | error fault => exact throw fault
  | ok value => exact pure value

/-- Where there is room in the counter, a child is evaluated with its edge counted. -/
theorem outcome_child (room : depth < top) :
    (Evaluator.child maxHeight top steps).outcome depth =
      (do
        if maxHeight < depth + 1 then
          MonadExcept.throw (.tooDeep maxHeight)
        let value ← steps
        set (← Counter.lower (← get))
        return value : Step Float).outcome (depth + 1) := by
  have counts : Counter.raise top depth = some (depth + 1) := if_pos room
  rw [Evaluator.child, Steps.outcome_get_bind, counts, Steps.outcome_some_bind,
    Steps.outcome_set_bind]

/-- A child is evaluated one edge further down. -/
theorem child (room : depth < top)
    (below : depth + 1 ≤ maxHeight → Counts (eval maxHeight top tree) (depth + 1)
      (tree.value maxHeight (depth + 1))) :
    Counts (child maxHeight top (eval maxHeight top tree)) depth
      (tree.value maxHeight (depth + 1)) := by
  by_cases low : depth + 1 ≤ maxHeight
  · obtain ⟨counted, outcome, above, settles⟩ := below low
    cases value : tree.value maxHeight (depth + 1) with
    | error fault =>
      rw [value] at outcome
      refine ⟨counted, ?_, Nat.le_of_succ_le above, fun _ same => by cases same⟩
      rw [outcome_child room, if_neg (Nat.not_lt.mpr low)]
      exact Steps.outcome_bind_of_error outcome
    | ok value' =>
      rw [value] at outcome
      obtain rfl := settles value' value
      refine ⟨depth, ?_, Nat.le_refl _, fun _ _ => rfl⟩
      rw [outcome_child room, if_neg (Nat.not_lt.mpr low)]
      exact Steps.outcome_bind_of_ok outcome
  · have deep := Nat.lt_of_not_ge low
    refine ⟨depth + 1, ?_, Nat.le_succ _, fun _ same => ?_⟩
    · rw [outcome_child room, if_pos deep, Expr.value.eq_def, if_pos deep]
      rfl
    · rw [Expr.value.eq_def, if_pos deep] at same
      cases same

end Counts

/-- Where there is room for its height, a tree has the value that it has without a counter. -/
theorem counts_eval (room : depth + tree.height ≤ top) (low : depth ≤ maxHeight) :
    Counts (eval maxHeight top tree) depth (tree.value maxHeight depth) := by
  have above : ¬ maxHeight < depth := Nat.not_lt.mpr low
  induction tree generalizing depth with
  | literal value =>
    rw [Expr.value, if_neg above]
    exact .pure value
  | negate operand ih =>
    rw [Expr.height] at room
    rw [Expr.value, if_neg above]
    exact .bind (.child (by omega) fun low => ih (by omega) low (Nat.not_lt.mpr low))
      fun value => .pure (-value)
  | binary op lhs rhs ihLeft ihRight =>
    rw [Expr.height] at room
    rw [Expr.value, if_neg above]
    exact .bind (.child (by omega) fun low => ihLeft (by omega) low (Nat.not_lt.mpr low))
      fun left => .bind (.child (by omega) fun low => ihRight (by omega) low (Nat.not_lt.mpr low))
        fun right => .ofExcept (op.apply left right)
  | call function argument ih =>
    rw [Expr.height] at room
    rw [Expr.value, if_neg above, eval]
    cases Builtin.ofName? function with
    | none => exact .throw _
    | some builtin =>
      exact .bind (.child (by omega) fun low => ih (by omega) low (Nat.not_lt.mpr low))
        fun value => .pure (builtin.apply value)

/-- An evaluator that can count the edges of a tree answers what is answered for the tree, and a
value leaves nothing counted. -/
theorem outcome_evaluate (limits : Limits) (fits : tree.height ≤ top) :
    ∃ counted, (evaluate limits top tree).outcome 0 = some (tree.evaluate limits, counted) ∧
      ∀ value, tree.evaluate limits = .ok value → counted = 0 := by
  have room : 0 + tree.height ≤ top := by rwa [Nat.zero_add]
  obtain ⟨counted, outcome, -, settles⟩ := counts_eval room (Nat.zero_le limits.maxHeight)
  unfold evaluate Expr.evaluate
  cases value : tree.value limits.maxHeight 0 with
  | error fault =>
    rw [value] at outcome
    exact ⟨counted, Steps.outcome_bind_of_error outcome, fun _ same => by cases same⟩
  | ok value' =>
    rw [value] at outcome
    obtain rfl := settles value' value
    refine ⟨0, (Steps.outcome_bind_of_ok outcome).trans ?_, fun _ _ => rfl⟩
    dsimp only
    split <;> rfl

end Calculator.Evaluator
