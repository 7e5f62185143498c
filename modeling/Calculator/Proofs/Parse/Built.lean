import Calculator.Proofs.Parse.Recursion

/-! # The trees that the parser puts together

A tree is measured by the expression it starts or extends, and only a sign or a call puts an edge on
top of one before that. So no tree that is put together on the way, also where the reading fails, is
more than one edge taller than the limit, and no walk down it takes more steps. With the room that
the expressions need, this is all the recursion there is, whatever the tokens are.
-/

namespace Calculator

namespace Expr

variable {tree part node : Expr}

/-- The trees that a tree is put together from. -/
inductive Child : Expr → Expr → Prop
  | lhs {op lhs rhs} : Child (.binary op lhs rhs) lhs
  | rhs {op lhs rhs} : Child (.binary op lhs rhs) rhs
  | operand {operand} : Child (.negate operand) operand
  | argument {function argument} : Child (.call function argument) argument

theorem Child.height_lt (child : Child tree part) : part.height < tree.height := by
  cases child with
  | lhs => exact Nat.lt_succ_of_le (Nat.le_max_left _ _)
  | rhs => exact Nat.lt_succ_of_le (Nat.le_max_right _ _)
  | operand | argument => exact Nat.lt_succ_self _

/-- No walk down a tree takes more steps than the tree is tall. -/
theorem length_le_height {path : List Expr} (walk : (tree :: path).IsChain Child) :
    path.length ≤ tree.height := by
  induction path generalizing tree with
  | nil => exact Nat.zero_le _
  | cons part path ih =>
    obtain ⟨child, walk⟩ := List.isChain_cons_cons.mp walk
    exact Nat.succ_le_of_lt (Nat.lt_of_le_of_lt (ih walk) child.height_lt)

/-- The nodes of a tree, the topmost one included. -/
def Holds (tree node : Expr) : Prop := Relation.ReflTransGen Child tree node

theorem Holds.literal {value : Float} (holds : (literal value).Holds node) :
    literal value = node := by
  obtain same | ⟨part, child, -⟩ := Relation.ReflTransGen.cases_head holds
  · exact same
  · cases child

theorem Holds.negate {operand : Expr} (holds : (negate operand).Holds node) :
    negate operand = node ∨ operand.Holds node := by
  obtain same | ⟨part, child, below⟩ := Relation.ReflTransGen.cases_head holds
  · exact .inl same
  · cases child
    exact .inr below

theorem Holds.call {function : String} {argument : Expr}
    (holds : (call function argument).Holds node) :
    call function argument = node ∨ argument.Holds node := by
  obtain same | ⟨part, child, below⟩ := Relation.ReflTransGen.cases_head holds
  · exact .inl same
  · cases child
    exact .inr below

theorem Holds.binary {op : BinaryOp} {lhs rhs : Expr} (holds : (binary op lhs rhs).Holds node) :
    binary op lhs rhs = node ∨ lhs.Holds node ∨ rhs.Holds node := by
  obtain same | ⟨part, child, below⟩ := Relation.ReflTransGen.cases_head holds
  · exact .inl same
  · cases child with
    | lhs => exact .inr (.inl below)
    | rhs => exact .inr (.inr below)

end Expr

namespace Parse

variable {limits : Limits} {finish : Span} {task : Task} {depth : Nat} {tokens rest : List Token}
  {reading : Reading} {tree node : Expr} {last : Span}

/-- How much taller than the limit a task can make a tree: an operand is measured only by the
expression that it starts. -/
def Task.excess : Task → Nat
  | operand => 1
  | _ => 0

/-- Only an operand exceeds the limit on height, and only by the one edge that a sign or a call
puts on a tree. -/
theorem Run.height_le (run : Run limits finish task depth tokens reading)
    (success : reading = .done tree last rest) (low : task.height ≤ limits.maxHeight) :
    tree.height ≤ limits.maxHeight + task.excess := by
  induction run generalizing tree last rest with
  | operandMissing | signedPowerDeep | stray | callEnds | callUnopened | operandFailed
  | operandTall | nestedDeep | rightFailed | rightTall => cases success
  | number =>
    cases success
    exact Nat.zero_le _
  | signedPower _ _ _ ih | negate _ ih =>
    obtain ⟨inner, done, rfl⟩ := Reading.map_eq_done.mp success
    exact Nat.succ_le_succ (ih done (Nat.zero_le _))
  | group _ ih =>
    obtain ⟨before, done⟩ := Reading.close_eq_done.mp success
    exact Nat.le_succ_of_le (ih done (Nat.zero_le _))
  | call _ ih =>
    obtain ⟨argument, closed, rfl⟩ := Reading.map_eq_done.mp success
    obtain ⟨before, done⟩ := Reading.close_eq_done.mp closed
    exact Nat.succ_le_succ (ih done (Nat.zero_le _))
  | nested _ _ ih => exact ih success (Nat.zero_le _)
  | stop =>
    cases success
    exact low
  | expression _ fits _ _ ih | extend _ _ _ fits _ _ ih => exact ih success fits

/-- The trees that a call puts together itself. -/
inductive Call.Builds (limits : Limits) (finish : Span) : Call → Expr → Prop
  | number {depth value place rest} (unsigned : signsPower value rest = false) :
    Builds limits finish ⟨.operand, ⟨.number value, place⟩ :: rest, depth⟩ (.literal value)
  | magnitude {depth value place rest} (signed : signsPower value rest = true)
      (room : depth + 1 ≤ limits.maxDepth) :
    Builds limits finish ⟨.operand, ⟨.number value, place⟩ :: rest, depth⟩ (.literal (-value))
  | signedPower {depth value place rest power last after} (signed : signsPower value rest = true)
      (room : depth + 1 ≤ limits.maxDepth)
      (read : Run limits finish (.extend signPower (.literal (-value)) place) (depth + 1) rest
        (.done power last after)) :
    Builds limits finish ⟨.operand, ⟨.number value, place⟩ :: rest, depth⟩ (.negate power)
  | negate {depth place rest tree last after}
      (read : Run limits finish (.nested place signPower) (depth + 1) rest
        (.done tree last after)) :
    Builds limits finish ⟨.operand, ⟨.symbol .minus, place⟩ :: rest, depth⟩ (.negate tree)
  | call {depth name place opening rest argument last closing after}
      (read : Run limits finish (.nested opening 0) (depth + 1) rest
        (.done argument last (⟨.symbol .closeParen, closing⟩ :: after))) :
    Builds limits finish
      ⟨.operand, ⟨.function name, place⟩ :: ⟨.symbol .openParen, opening⟩ :: rest, depth⟩
      (.call name argument)
  | binary {power lhs last depth token rest op rhs last' after}
      (operator : token.lexeme.operator? = some op) (binds : power ≤ op.leftPower)
      (right : Run limits finish (.right op token.span) (rightDepth op depth) rest
        (.done rhs last' after))
      (low : (Expr.binary op lhs rhs).height ≤ limits.maxHeight) :
    Builds limits finish ⟨.extend power lhs last, token :: rest, depth⟩ (.binary op lhs rhs)

theorem Call.Builds.height_le {call : Call} (builds : call.Builds limits finish tree) :
    tree.height ≤ limits.maxHeight + 1 := by
  cases builds with
  | number | magnitude => exact Nat.zero_le _
  | signedPower _ _ read | negate read | call read =>
    exact Nat.succ_le_succ (read.height_le rfl (Nat.zero_le _))
  | binary _ _ _ low => exact Nat.le_succ_of_le low

/-- The trees that are put together before a call returns. -/
def Call.Yields (limits : Limits) (finish : Span) (call : Call) (tree : Expr) : Prop :=
  ∃ inner, Relation.ReflTransGen (Call.Makes limits finish) call inner ∧
    inner.Builds limits finish tree

variable {outer inner : Call}

theorem Call.Builds.yields (builds : outer.Builds limits finish tree) :
    outer.Yields limits finish tree :=
  ⟨outer, .refl, builds⟩

theorem Call.Makes.yields (makes : outer.Makes limits finish inner)
    (yields : inner.Yields limits finish tree) : outer.Yields limits finish tree := by
  obtain ⟨last, inside, builds⟩ := yields
  exact ⟨last, .head makes inside, builds⟩

theorem Call.Yields.inside (yields : inner.Yields limits finish tree)
    (inside : Relation.ReflTransGen (Call.Makes limits finish) outer inner) :
    outer.Yields limits finish tree := by
  obtain ⟨last, further, builds⟩ := yields
  exact ⟨last, inside.trans further, builds⟩

/-- The nodes that a task is given. -/
def Task.Given : Task → Expr → Prop
  | extend _ lhs _, node => lhs.Holds node
  | _, _ => False

theorem Task.not_given_right (op : BinaryOp) (place : Span) (node : Expr) :
    ¬ (Task.right op place).Given node := by
  unfold Task.right
  split <;> exact id

/-- Every node of a tree that is read was put together on the way or given before. -/
theorem Run.yields (run : Run limits finish task depth tokens reading)
    (success : reading = .done tree last rest) (holds : tree.Holds node) :
    Call.Yields limits finish ⟨task, tokens, depth⟩ node ∨ task.Given node := by
  induction run generalizing tree last rest with
  | operandMissing | signedPowerDeep | stray | callEnds | callUnopened | operandFailed
  | operandTall | nestedDeep | rightFailed | rightTall => cases success
  | number unsigned =>
    cases success
    cases holds.literal
    exact .inl (Call.Builds.number unsigned).yields
  | signedPower signed room power ih =>
    obtain ⟨inner, done, rfl⟩ := Reading.map_eq_done.mp success
    subst done
    left
    obtain rfl | below := holds.negate
    · exact (Call.Builds.signedPower signed room power).yields
    · obtain yields | given := ih rfl below
      · exact (Call.Makes.signedPower signed room).yields yields
      · cases Expr.Holds.literal given
        exact (Call.Builds.magnitude signed room).yields
  | negate read ih =>
    obtain ⟨inner, done, rfl⟩ := Reading.map_eq_done.mp success
    subst done
    left
    obtain rfl | below := holds.negate
    · exact (Call.Builds.negate read).yields
    · exact Call.Makes.negate.yields ((ih rfl below).resolve_right id)
  | group _ ih =>
    obtain ⟨before, done⟩ := Reading.close_eq_done.mp success
    exact .inl (Call.Makes.group.yields ((ih done holds).resolve_right id))
  | call read ih =>
    obtain ⟨argument, closed, rfl⟩ := Reading.map_eq_done.mp success
    obtain ⟨before, done⟩ := Reading.close_eq_done.mp closed
    subst done
    left
    obtain rfl | below := holds.call
    · exact (Call.Builds.call read).yields
    · exact Call.Makes.call.yields ((ih rfl below).resolve_right id)
  | nested room _ ih =>
    exact .inl ((Call.Makes.nested room).yields ((ih success holds).resolve_right id))
  | stop =>
    cases success
    exact .inr holds
  | expression first low _ ihFirst ihMore =>
    left
    obtain yields | given := ihMore success holds
    · exact (Call.Makes.more first low).yields yields
    · exact Call.Makes.first.yields ((ihFirst rfl given).resolve_right id)
  | extend operator binds right low _ ihRight ihMore =>
    obtain yields | given := ihMore success holds
    · exact .inl ((Call.Makes.again operator binds right low).yields yields)
    · obtain rfl | before | behind := Expr.Holds.binary given
      · exact .inl (Call.Builds.binary operator binds right low).yields
      · exact .inr before
      · exact .inl ((Call.Makes.right operator binds).yields
          ((ihRight rfl behind).resolve_right (Task.not_given_right _ _ _)))

/-- Every node that a call is given was put together before, if none was given at the start. -/
theorem Call.yields_of_given (inside : Relation.ReflTransGen (Makes limits finish) outer inner)
    (fresh : ∀ node, ¬ outer.task.Given node) (given : inner.task.Given node) :
    outer.Yields limits finish node := by
  induction inside generalizing node with
  | refl => exact (fresh node given).elim
  | tail inside makes ih =>
    have deeper {call : Call} {node : Expr} (next : Makes limits finish _ call)
        (yields : call.Yields limits finish node) : outer.Yields limits finish node :=
      (next.yields yields).inside inside
    cases makes with
    | signedPower signed room =>
      cases Expr.Holds.literal given
      exact (Builds.magnitude signed room).yields.inside inside
    | negate | group | call | first | nested => exact given.elim
    | right => exact (Task.not_given_right _ _ _ given).elim
    | more first low => exact deeper .first ((first.yields rfl given).resolve_right id)
    | again operator binds right low =>
      obtain rfl | before | behind := Expr.Holds.binary given
      · exact (Builds.binary operator binds right low).yields.inside inside
      · exact ih before
      · exact deeper (.right operator binds)
          ((right.yields rfl behind).resolve_right (Task.not_given_right _ _ _))

/-- How far a parser on some tokens recurses. -/
structure Recurses (limits : Limits) (tokens : List Token) : Prop where
  /-- Of the calls that are under way at a time, at most three on each level read an expression. -/
  calls : ∀ calls, (Call.root tokens :: calls).IsChain (Call.Makes limits (Parse.finish tokens)) →
    expressions (Call.root tokens :: calls) ≤ 3 * (limits.maxDepth + 1)
  /-- A parser with as much room never runs out of it, and answers the same. -/
  room : ∀ fuel, 3 * (limits.maxDepth + 1) ≤ fuel →
    parse? fuel limits tokens = some (parse limits tokens)
  /-- No tree that is put together is more than one edge taller than the limit. -/
  low : ∀ tree, (Call.root tokens).Yields limits (Parse.finish tokens) tree →
    tree.height ≤ limits.maxHeight + 1
  /-- No walk down such a tree takes more steps. -/
  walks : ∀ tree path, (Call.root tokens).Yields limits (Parse.finish tokens) tree →
    (tree :: path).IsChain Expr.Child → path.length ≤ limits.maxHeight + 1
  /-- They are all the trees there are: what any of the calls reads has no other nodes. -/
  whole : ∀ call tree last rest node,
    Relation.ReflTransGen (Call.Makes limits (Parse.finish tokens)) (Call.root tokens) call →
    call.task.read limits (Parse.finish tokens) call.session.depth call.session.rest =
      .done tree last rest →
    tree.Holds node → (Call.root tokens).Yields limits (Parse.finish tokens) node

end Parse

/-- Whatever the tokens are, the limits bound how far the parser recurses. -/
theorem parse_recurses (limits : Limits) (tokens : List Token) : Parse.Recurses limits tokens := by
  have low (tree : Expr)
      (yields : (Parse.Call.root tokens).Yields limits (Parse.finish tokens) tree) :
      tree.height ≤ limits.maxHeight + 1 := by
    obtain ⟨call, -, builds⟩ := yields
    exact builds.height_le
  refine ⟨fun _ => Parse.Call.expressions_root_le limits tokens, fun _ => parse?_eq tokens, low,
    fun tree path yields walk => (Expr.length_le_height walk).trans (low tree yields), ?_⟩
  intro call tree last rest node inside read holds
  obtain yields | given := (Parse.Task.run_iff.mpr read).yields rfl holds
  · exact yields.inside inside
  · exact Parse.Call.yields_of_given inside (fun _ => id) given

end Calculator
