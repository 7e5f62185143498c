import Calculator.Proofs.Parse.Unambiguous

/-! # What stands in parentheses can be exchanged

Words that the grammar spells close every parenthesis they open. Where words in parentheses are a
part of others, and spell a tree by themselves, they are therefore a part of the derivation: the
whole tree is a frame around that tree, and any other words in the parentheses put their tree into
the same frame.
-/

namespace Calculator

/-- A tree with one place left open. -/
inductive Expr.Frame where
  | here
  | left (op : BinaryOp) (lhs : Frame) (rhs : Expr)
  | right (op : BinaryOp) (lhs : Expr) (rhs : Frame)
  | negate (operand : Frame)
  | call (function : String) (argument : Frame)

/-- The tree that a tree in the open place of a frame makes. -/
def Expr.Frame.fill : Frame → Expr → Expr
  | here, tree => tree
  | left op lhs rhs, tree => .binary op (lhs.fill tree) rhs
  | right op lhs rhs, tree => .binary op lhs (rhs.fill tree)
  | negate operand, tree => .negate (operand.fill tree)
  | call function argument, tree => .call function (argument.fill tree)

namespace Grammar

/-- Words in parentheses, between others. -/
def enclose (before inside after : List Lexeme) : List Lexeme :=
  before ++ .symbol .openParen :: (inside ++ .symbol .closeParen :: after)

/-- Words that close every parenthesis they open, and no other. -/
structure Balanced (words : List Lexeme) : Prop where
  closed : words.count (.symbol .closeParen) = words.count (.symbol .openParen)
  nested : ∀ start more, words = start ++ more →
    start.count (.symbol .closeParen) ≤ start.count (.symbol .openParen)

variable {stratum : Stratum} {words words' left right before inside after : List Lexeme}
  {tree part : Expr} {word : Lexeme} {sign : Symbol}

namespace Balanced

theorem singleton (notOpen : word ≠ .symbol .openParen) (notClose : word ≠ .symbol .closeParen) :
    Balanced [word] := by
  constructor
  · rw [List.count_singleton, List.count_singleton]
    simp [notOpen, notClose]
  · intro start more same
    cases start with
    | nil => exact Nat.le_refl _
    | cons first rest =>
      injection same with first nothing
      obtain ⟨rfl, -⟩ := List.append_eq_nil_iff.mp nothing.symm
      subst first
      simp [notClose]

theorem append (first : Balanced words) (second : Balanced words') :
    Balanced (words ++ words') := by
  constructor
  · rw [List.count_append, List.count_append, first.closed, second.closed]
  · intro start more same
    rcases List.append_eq_append_iff.mp same with ⟨middle, rfl, rest⟩ | ⟨middle, rfl, -⟩
    · rw [List.count_append, List.count_append, first.closed]
      exact Nat.add_le_add_left (second.nested middle more rest) _
    · exact first.nested start middle rfl

theorem group (inner : Balanced words) : Balanced (enclose [] words []) := by
  constructor
  · simp [enclose, inner.closed]
  · intro start more same
    cases start with
    | nil => exact Nat.le_refl _
    | cons first start =>
      injection same with opens same
      subst first
      rw [List.count_cons_of_ne (by simp), List.count_cons_self]
      rcases List.append_eq_append_iff.mp same with ⟨middle, rfl, last⟩ | ⟨middle, rfl, -⟩
      · have short := congrArg List.length last
        rw [List.length_append, List.length_singleton] at short
        have few := List.count_le_length (a := Lexeme.symbol .closeParen) (l := middle)
        rw [List.count_append, List.count_append, inner.closed]
        omega
      · exact Nat.le_succ_of_le (inner.nested start middle rfl)

/-- An operation on balanced words is balanced. -/
theorem between (first : Balanced words) (second : Balanced words') (op : BinaryOp) :
    Balanced (words ++ .symbol op.symbol :: words') := by
  have sign : Balanced [.symbol op.symbol] := by
    apply singleton <;> cases op <;> simp [BinaryOp.symbol]
  exact first.append (sign.append second)

/-- Words that end where others are not yet complete do not close a parenthesis before these. -/
theorem not_opened (inner : Balanced (inside ++ after)) :
    ¬ Balanced (before ++ .symbol .openParen :: inside) := by
  intro balanced
  have closed := balanced.closed
  have nested := balanced.nested before _ rfl
  have nested' := inner.nested inside _ rfl
  rw [List.count_append, List.count_append, List.count_cons_of_ne (by simp),
    List.count_cons_self] at closed
  omega

/-- Words that start with complete words do not go on with a closing parenthesis. -/
theorem not_closed (inner : Balanced inside) :
    ¬ Balanced (inside ++ .symbol .closeParen :: after) := by
  intro balanced
  have closed := inner.closed
  have nested := balanced.nested (inside ++ [.symbol .closeParen]) after (by simp)
  rw [List.count_append, List.count_append, List.count_singleton_self,
    List.count_cons_of_ne (by simp), List.count_nil] at nested
  omega

/-- A group lies on one side of any word outside it. -/
theorem group_within (balanced : Balanced left) (inner : Balanced inside)
    (notOpen : sign ≠ .openParen) (notClose : sign ≠ .closeParen)
    (same : left ++ .symbol sign :: right = enclose before inside after) :
    (∃ after', left = enclose before inside after' ∧ after = after' ++ .symbol sign :: right) ∨
      ∃ before', before = left ++ .symbol sign :: before' ∧
        right = enclose before' inside after := by
  rcases append_cons_cases same with ⟨-, word, -⟩ | ⟨before', rfl, split⟩ | ⟨middle, rfl, split⟩
  · cases word
    exact (notOpen rfl).elim
  · exact .inr ⟨before', rfl, split⟩
  rcases append_cons_cases split with ⟨-, word, -⟩ | ⟨after', rfl, behind⟩ | ⟨more, rfl, -⟩
  · cases word
    exact (notClose rfl).elim
  · exact .inl ⟨after', rfl, behind⟩
  · exact (inner.not_opened balanced).elim

/-- What stands in parentheses in a group is all of it, or a part of what is in it. -/
theorem group_cases (balanced : Balanced words) (inner : Balanced inside)
    (same : enclose [] words [] = enclose before inside after) :
    (before = [] ∧ words = inside ∧ after = []) ∨
      ∃ before' after', before = .symbol .openParen :: before' ∧
        after = after' ++ [.symbol .closeParen] ∧ words = enclose before' inside after' := by
  cases before with
  | nil =>
    injection same with _ split
    rcases append_cons_cases split with ⟨rfl, -, rfl⟩ | ⟨more, rfl, nothing⟩ | ⟨more, rfl, -⟩
    · exact .inl ⟨rfl, rfl, rfl⟩
    · cases more <;> cases nothing
    · exact (inner.not_closed balanced).elim
  | cons word before =>
    injection same with first split
    subst first
    rcases append_cons_cases split with ⟨-, word, -⟩ | ⟨more, -, nothing⟩ | ⟨more, rfl, behind⟩
    · cases word
    · cases more <;> cases nothing
    rcases append_cons_cases behind with ⟨rfl, -, rfl⟩ | ⟨after', rfl, rfl⟩ | ⟨rest, -, nothing⟩
    · rw [← List.append_nil inside] at inner
      exact (inner.not_opened balanced).elim
    · exact .inr ⟨before, after', rfl, rfl, rfl⟩
    · cases rest <;> cases nothing

end Balanced

theorem Derivation.balanced (derivation : Derivation stratum words tree) : Balanced words := by
  induction derivation with
  | number value => exact .singleton (by simp) (by simp)
  | group _ ih => exact ih.group
  | call name _ ih => exact (Balanced.singleton (by simp) (by simp)).append ih.group
  | primary _ ih | unary _ ih | term _ ih => exact ih
  | negate _ ih => exact (Balanced.singleton (by simp) (by simp)).append ih
  | signedPower _ _ ih =>
    exact (Balanced.singleton (by simp) (by simp)).between ih .pow
  | power _ _ _ left right => exact left.between right .pow
  | product _ _ _ left right | sum _ _ _ left right => exact left.between right _

/-- Words before and behind parentheses make a frame, whatever expression stands in them. -/
def Around (stratum : Stratum) (before after : List Lexeme) (frame : Expr.Frame) : Prop :=
  ∀ inside tree, Spells inside tree →
    Nonempty (Derivation stratum (enclose before inside after) (frame.fill tree))

/-- Words before and behind parentheses put the tree of what stands in them into a frame. -/
def Framed (stratum : Stratum) (before after : List Lexeme) (part whole : Expr) : Prop :=
  ∃ frame : Expr.Frame, frame.fill part = whole ∧ Around stratum before after frame

theorem enclose_ne_singleton : enclose before inside after ≠ [word] := by
  intro same
  cases before <;> simp [enclose] at same

theorem not_isSignedNumber_enclose : ¬ IsSignedNumber (enclose before inside after) := by
  rintro ⟨value, same, -⟩
  exact enclose_ne_singleton same

theorem Framed.map {stratum' : Stratum} (framed : Framed stratum before after part tree)
    (step : ∀ {words tree}, Derivation stratum words tree → Derivation stratum' words tree) :
    Framed stratum' before after part tree := by
  obtain ⟨frame, fills, around⟩ := framed
  exact ⟨frame, fills, fun inside tree spells => (around inside tree spells).map step⟩

/-- The group around an expression, and the frame that words in it make. -/
theorem exists_frame_of_group (group : Derivation .expr words tree)
    (inner : Derivation .expr inside part)
    (same : enclose [] words [] = enclose before inside after)
    (within : ∀ {before after}, words = enclose before inside after →
      Framed .expr before after part tree) :
    ∃ frame : Expr.Frame, frame.fill part = tree ∧ ∀ inside tree, Spells inside tree →
      ∃ words, enclose before inside after = enclose [] words [] ∧
        Spells words (frame.fill tree) := by
  rcases group.balanced.group_cases inner.balanced same with
    ⟨rfl, rfl, rfl⟩ | ⟨before', after', rfl, rfl, split⟩
  · exact ⟨.here, (inner.unique group rfl).1, fun inside tree spells => ⟨inside, rfl, spells⟩⟩
  · obtain ⟨frame, fills, around⟩ := within split
    refine ⟨frame, fills, fun inside tree spells => ?_⟩
    refine ⟨enclose before' inside after', ?_, around inside tree spells⟩
    simp [enclose]

/-- An operation has what stands in parentheses on one of its sides. -/
theorem framed_of_operation {op : BinaryOp} {outer first second : Stratum} {lhs rhs : Expr}
    (onLeft : Derivation first left lhs) (onRight : Derivation second right rhs)
    (inner : Derivation .expr inside part)
    (same : left ++ .symbol op.symbol :: right = enclose before inside after)
    (joinLeft : ∀ {words lhs}, ¬ IsSignedNumber words → Derivation first words lhs →
      Derivation outer (words ++ .symbol op.symbol :: right) (.binary op lhs rhs))
    (joinRight : ∀ {words rhs}, Derivation second words rhs →
      Derivation outer (left ++ .symbol op.symbol :: words) (.binary op lhs rhs))
    (withinLeft : ∀ {after}, left = enclose before inside after →
      Framed first before after part lhs)
    (withinRight : ∀ {before}, right = enclose before inside after →
      Framed second before after part rhs) :
    Framed outer before after part (.binary op lhs rhs) := by
  have notOpen : op.symbol ≠ .openParen := by cases op <;> decide
  have notClose : op.symbol ≠ .closeParen := by cases op <;> decide
  rcases onLeft.balanced.group_within inner.balanced notOpen notClose same with
    ⟨after', split, rfl⟩ | ⟨before', rfl, split⟩
  · obtain ⟨frame, rfl, around⟩ := withinLeft split
    refine ⟨.left op frame rhs, rfl, fun inside tree spells => ?_⟩
    have words : enclose before inside (after' ++ .symbol op.symbol :: right) =
        enclose before inside after' ++ .symbol op.symbol :: right := by simp [enclose]
    rw [words]
    exact (around inside tree spells).map (joinLeft not_isSignedNumber_enclose)
  · obtain ⟨frame, rfl, around⟩ := withinRight split
    refine ⟨.right op lhs frame, rfl, fun inside tree spells => ?_⟩
    have words : enclose (left ++ .symbol op.symbol :: before') inside after =
        left ++ .symbol op.symbol :: enclose before' inside after := by simp [enclose]
    rw [words]
    exact (around inside tree spells).map joinRight

/-- Words in parentheses that spell a tree are a part of the derivation around them. -/
theorem Derivation.framed (whole : Derivation stratum words tree)
    (inner : Derivation .expr inside part) (same : words = enclose before inside after) :
    Framed stratum before after part tree := by
  induction whole generalizing before after with
  | number => exact (enclose_ne_singleton same.symm).elim
  | group group ih =>
    obtain ⟨frame, fills, groups⟩ := exists_frame_of_group group inner same ih
    refine ⟨frame, fills, fun inside tree spells => ?_⟩
    obtain ⟨words, enclosed, ⟨derivation⟩⟩ := groups inside tree spells
    rw [enclosed]
    exact ⟨.group derivation⟩
  | call name argument ih =>
    cases before with
    | nil => cases same
    | cons word before =>
      injection same with first same
      subst first
      obtain ⟨frame, rfl, groups⟩ := exists_frame_of_group argument inner same ih
      refine ⟨.call name frame, rfl, fun inside tree spells => ?_⟩
      obtain ⟨words, enclosed, ⟨derivation⟩⟩ := groups inside tree spells
      change Nonempty (Derivation _ (.function name :: enclose before inside after) _)
      rw [enclosed]
      exact ⟨.call name derivation⟩
  | primary _ ih => exact (ih same).map .primary
  | unary _ ih => exact (ih same).map .unary
  | term _ ih => exact (ih same).map .term
  | power plain left right ihLeft ihRight =>
    exact framed_of_operation left right inner same (fun plain left => .power plain left right)
      (.power plain left) ihLeft ihRight
  | product either left right ihLeft ihRight =>
    exact framed_of_operation left right inner same (fun _ left => .product either left right)
      (.product either left) ihLeft ihRight
  | sum either left right ihLeft ihRight =>
    exact framed_of_operation left right inner same (fun _ left => .sum either left right)
      (.sum either left) ihLeft ihRight
  | negate operand ih =>
    cases before with
    | nil => cases same
    | cons word before =>
      injection same with first same
      subst first
      obtain ⟨frame, rfl, around⟩ := ih same
      exact ⟨.negate frame, rfl, fun inside tree spells =>
        (around inside tree spells).map .negate⟩
  | @signedPower value words exponent signed right ih =>
    rcases before with _ | ⟨word, _ | ⟨word', before⟩⟩
    · cases same
    · injection same with _ same
      cases same
    · injection same with first same
      injection same with second same
      subst first second
      obtain ⟨frame, rfl, around⟩ := ih same
      exact ⟨.negate (.right .pow (.literal (-value)) frame), rfl, fun inside tree spells =>
        (around inside tree spells).map (.signedPower signed)⟩

end Grammar

end Calculator
