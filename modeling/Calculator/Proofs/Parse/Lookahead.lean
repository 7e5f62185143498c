import Calculator.Proofs.Parse.Sound

/-! # How far the parser looks

A task that is done has looked at the tokens it used up and at the one behind them, so it is done
in the same way before any tokens that start alike. A run cut short by a limit has met more tokens,
on top of the levels around it and the tree it extends, than the limit allows.
-/

namespace Calculator.Parse

open Grammar

variable {limits : Limits} {finish : Span} {tree : Expr} {last : Span} {depth : Nat}
  {tokens rest ahead : List Token} {task : Task} {reading : Reading}

theorem startsWithCaret_congr (alike : ahead.head? = rest.head?) :
    startsWithCaret ahead = startsWithCaret rest := by
  cases ahead <;> cases rest <;> cases alike <;> rfl

theorem signsPower_congr (alike : ahead.head? = rest.head?) (value : Float) :
    signsPower value ahead = signsPower value rest := by
  rw [signsPower, signsPower, startsWithCaret_congr alike]

theorem Stops.congr {power : Nat} (stops : Stops power rest) (alike : ahead.head? = rest.head?) :
    Stops power ahead := by
  cases ahead <;> cases rest <;> cases alike <;> exact stops

theorem head?_append_congr (used : List Token) (alike : ahead.head? = rest.head?) :
    (used ++ ahead).head? = (used ++ rest).head? := by
  cases used with
  | nil => exact alike
  | cons => rfl

/-- A task is done in the same way before all tokens that start alike. -/
theorem Run.lookahead (run : Run limits finish task depth tokens reading)
    (success : reading = .done tree last rest) :
    ∃ used, tokens = used ++ rest ∧ ∀ other ahead, ahead.head? = rest.head? →
      Run limits other task depth (used ++ ahead) (.done tree last ahead) := by
  induction run generalizing tree last rest with
  | operandMissing | signedPowerDeep | stray | callEnds | callUnopened | operandFailed
  | operandTall | nestedDeep | rightFailed | rightTall => cases success
  | @number depth value place rest unsigned =>
    cases success
    refine ⟨[⟨.number value, place⟩], rfl, fun other ahead alike => .number ?_⟩
    exact (signsPower_congr alike value).trans unsigned
  | @signedPower depth value place rest' reading signed room _ ih =>
    obtain ⟨inner, done, rfl⟩ := Reading.map_eq_done.mp success
    obtain ⟨used, rfl, replay⟩ := ih done
    refine ⟨⟨.number value, place⟩ :: used, rfl, fun other ahead alike => ?_⟩
    have signed' : signsPower value (used ++ ahead) = true := by
      rwa [signsPower_congr (head?_append_congr used alike)]
    exact .signedPower signed' room (replay other ahead alike)
  | @negate depth place rest' reading _ ih =>
    obtain ⟨inner, done, rfl⟩ := Reading.map_eq_done.mp success
    obtain ⟨used, rfl, replay⟩ := ih done
    exact ⟨⟨.symbol .minus, place⟩ :: used, rfl,
      fun other ahead alike => .negate (replay other ahead alike)⟩
  | @group depth opening rest' reading _ ih =>
    obtain ⟨before, done⟩ := Reading.close_eq_done.mp success
    obtain ⟨used, rfl, replay⟩ := ih done
    refine ⟨⟨.symbol .openParen, opening⟩ :: (used ++ [⟨.symbol .closeParen, last⟩]), by simp,
      fun other ahead _ => ?_⟩
    rw [List.cons_append, List.append_assoc]
    exact .group (replay other (⟨.symbol .closeParen, last⟩ :: ahead) rfl)
  | @call depth name place opening rest' reading _ ih =>
    obtain ⟨argument, closed, rfl⟩ := Reading.map_eq_done.mp success
    obtain ⟨before, done⟩ := Reading.close_eq_done.mp closed
    obtain ⟨used, rfl, replay⟩ := ih done
    refine ⟨⟨.function name, place⟩ :: ⟨.symbol .openParen, opening⟩ ::
      (used ++ [⟨.symbol .closeParen, last⟩]), by simp, fun other ahead _ => ?_⟩
    rw [List.cons_append, List.cons_append, List.append_assoc]
    exact .call (replay other (⟨.symbol .closeParen, last⟩ :: ahead) rfl)
  | expression _ low _ ihFirst ihMore =>
    obtain ⟨second, rfl, replay'⟩ := ihMore success
    obtain ⟨first, rfl, replay⟩ := ihFirst rfl
    refine ⟨first ++ second, (List.append_assoc ..).symm, fun other ahead alike => ?_⟩
    rw [List.append_assoc]
    exact .expression (replay other _ (head?_append_congr second alike)) low
      (replay' other ahead alike)
  | nested room _ ih =>
    obtain ⟨used, rfl, replay⟩ := ih success
    exact ⟨used, rfl, fun other ahead alike => .nested room (replay other ahead alike)⟩
  | stop stops =>
    cases success
    exact ⟨[], rfl, fun other ahead alike => .stop (stops.congr alike)⟩
  | @extend power lhs _ depth token rest' op rhs _ after reading operator binds _ low _ ihRight
      ihMore =>
    obtain ⟨second, rfl, replay'⟩ := ihMore success
    obtain ⟨first, rfl, replay⟩ := ihRight rfl
    refine ⟨token :: (first ++ second), by simp, fun other ahead alike => ?_⟩
    rw [List.cons_append, List.append_assoc]
    exact .extend operator binds (replay other _ (head?_append_congr second alike)) low
      (replay' other ahead alike)

/-- An operand is lower than its tokens are many. -/
theorem Run.height_operand (run : Run limits finish .operand depth tokens (.done tree last rest)) :
    tree.height + rest.length < tokens.length := by
  obtain ⟨used, stratum, rfl, -, ⟨derivation, -⟩, -⟩ := Run.spelled run rfl
  have height := derivation.height_lt_length
  rw [Token.length_lexemes] at height
  rw [List.length_append]
  omega

/-- What is read to the right of an operator is lower than its tokens are many. -/
theorem Run.height_right {op : BinaryOp} {place : Span}
    (run : Run limits finish (.right op place) (rightDepth op depth) tokens
      (.done tree last rest)) :
    tree.height + rest.length < tokens.length := by
  obtain ⟨-, used, rfl, -, -, derivation, -⟩ := Spelled.of_right (Run.spelled run rfl)
  have height := derivation.height_lt_length
  rw [List.nil_append, Token.length_lexemes] at height
  rw [List.length_append]
  omega

/-- The height of the tree that a task extends. -/
def Task.height : Task → Nat
  | extend _ lhs _ => lhs.height
  | _ => 0

theorem Task.height_right (op : BinaryOp) (place : Span) : (Task.right op place).height = 0 := by
  unfold Task.right
  split <;> rfl

theorem rightDepth_le (op : BinaryOp) (depth : Nat) : rightDepth op depth ≤ depth + 1 := by
  unfold rightDepth
  split <;> omega

/-- The fewest tokens that the tree which a task extends can have taken. -/
def Task.spent : Task → Nat
  | extend _ lhs _ => lhs.height + 1
  | _ => 0

theorem Task.spent_right (op : BinaryOp) (place : Span) : (Task.right op place).spent = 0 := by
  unfold Task.right
  split <;> rfl

/-- Whether a limit that a reading exceeds is smaller than so many levels, or than the edges that so
many tokens make at most. -/
def Reading.Warranted (limits : Limits) (levels tokens : Nat) : Reading → Prop
  | failed (.tooComplex ..) _ _ => limits.maxDepth < levels
  | failed (.tooTall ..) _ _ => limits.maxHeight + 1 < tokens
  | _ => True

namespace Reading.Warranted

variable {levels count levels' count' : Nat}

theorem mono (warranted : reading.Warranted limits levels count) (deeper : levels ≤ levels')
    (more : count ≤ count') : reading.Warranted limits levels' count' := by
  cases reading with
  | done => trivial
  | failed fault depth rest =>
    cases fault with
    | tooComplex => exact Nat.lt_of_lt_of_le warranted deeper
    | tooTall => exact Nat.lt_of_lt_of_le warranted more
    | _ => trivial

theorem map (warranted : reading.Warranted limits levels count) (change : Expr → Expr) :
    (reading.map change).Warranted limits levels count := by
  cases reading with
  | done => trivial
  | failed => exact warranted

theorem close (warranted : reading.Warranted limits levels count) (opening : Span) (depth : Nat) :
    (reading.close opening depth).Warranted limits levels count := by
  rcases reading with ⟨tree, last, _ | ⟨token, rest⟩⟩ | ⟨fault, depth', rest⟩
  · trivial
  · unfold Reading.close
    dsimp only
    split <;> trivial
  · exact warranted

end Reading.Warranted

/-- A limit is exceeded only by more levels, or by more edges, than the tokens make with the levels
around them and the tree they extend. One of the tokens makes no edge: it is the first number. -/
theorem Run.warranted (run : Run limits finish task depth tokens reading) :
    reading.Warranted limits (depth + tokens.length) (task.spent + tokens.length) := by
  induction run with
  | operandMissing | number | stray | callEnds | callUnopened | stop => trivial
  | signedPowerDeep =>
    simp only [Reading.Warranted, List.length_cons]
    omega
  | nestedDeep =>
    simp only [Reading.Warranted]
    omega
  | signedPower _ _ _ ih =>
    refine (ih.map _).mono ?_ ?_ <;> simp only [Task.spent, Expr.height, List.length_cons] <;> omega
  | negate _ ih =>
    refine (ih.map _).mono ?_ ?_ <;> simp only [Task.spent, List.length_cons] <;> omega
  | group _ ih =>
    refine (ih.close _ _).mono ?_ ?_ <;> simp only [Task.spent, List.length_cons] <;> omega
  | call _ ih =>
    refine ((ih.close _ _).map _).mono ?_ ?_ <;>
      simp only [Task.spent, List.length_cons] <;> omega
  | operandFailed _ ih | nested _ _ ih => exact ih
  | operandTall first tall =>
    have height := Run.height_operand first
    simp only [Reading.Warranted, Task.spent]
    omega
  | expression first _ _ _ ih =>
    have height := Run.height_operand first
    simp only [Task.spent] at ih ⊢
    exact ih.mono (by omega) (by omega)
  | @rightFailed _ _ _ depth token _ op _ _ _ _ _ _ ih =>
    have level := rightDepth_le op depth
    rw [Task.spent_right] at ih
    refine ih.mono ?_ ?_ <;> simp only [List.length_cons] <;> omega
  | rightTall _ _ right tall =>
    have height := Run.height_right right
    simp only [Expr.height] at tall
    simp only [Reading.Warranted, Task.spent, List.length_cons]
    omega
  | extend _ _ right _ _ _ ih =>
    have height := Run.height_right right
    refine ih.mono ?_ ?_ <;> simp only [Task.spent, Expr.height, List.length_cons] <;> omega

theorem Task.spent_le (task : Task) : task.spent ≤ task.height + 1 := by
  cases task with
  | extend => exact Nat.le_refl _
  | _ => exact Nat.zero_le _

/-- A limit is exceeded only by more tokens than it allows, on top of the levels around them and
the tree they extend. -/
theorem Run.exceeds (run : Run limits finish task depth tokens reading)
    (exceeds : reading.Exceeds limits) :
    limits.maxDepth < depth + tokens.length ∨
      limits.maxHeight < task.height + tokens.length := by
  have warranted := run.warranted
  cases reading with
  | done => exact exceeds.elim
  | failed fault =>
    cases fault with
    | tooComplex => exact .inl warranted
    | tooTall =>
      have spent := task.spent_le
      simp only [Reading.Warranted] at warranted
      right
      omega
    | _ => exact exceeds.elim

end Calculator.Parse
