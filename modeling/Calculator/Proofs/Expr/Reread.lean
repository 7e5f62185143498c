import Calculator.Proofs.Expr.Value
import Calculator.Proofs.Expr.Words
import Calculator.Proofs.Parse.Grammar

/-! # What a formula is read as

The words of the formula of a tree spell a tree again, but not always the same one. A minus sign
before a number becomes a part of the number, which leaves values as they are. A negation that is
the base of a power, however, has no parentheses of its own: its sign is read as the sign of the
whole power. So the formula is read as the tree itself, with signs joined, exactly if no power in
the tree has a negation as its base.
-/

namespace Calculator

open Grammar Binary64

/-- What the formula of a tree is read as: by itself, and before a caret and an exponent. -/
structure Rereading where
  alone : Expr
  power : Expr → Expr

/-- The reading of a formula that a caret takes whole. -/
def Rereading.whole (tree : Expr) : Rereading := ⟨tree, .binary .pow tree⟩

namespace Expr

/-- What the formula of a tree is read as. -/
def rereading : Expr → Rereading
  | literal value => .whole (literal value)
  | binary op lhs rhs =>
    .whole (if op = .pow then lhs.rereading.power rhs.rereading.alone
      else binary op lhs.rereading.alone rhs.rereading.alone)
  | negate operand =>
    { alone := operand.bare?.elim (negate operand.rereading.alone) fun value => literal (-value)
      power := fun exponent => negate (operand.rereading.power exponent) }
  | call function argument => .whole (call function argument.rereading.alone)

/-- The tree that the formula of a tree spells. -/
def reread (tree : Expr) : Expr := tree.rereading.alone

/-- Changes negations of numbers without a sign into numbers with one. -/
def joined : Expr → Expr
  | literal value => literal value
  | binary op lhs rhs => binary op lhs.joined rhs.joined
  | negate operand => operand.bare?.elim (negate operand.joined) fun value => literal (-value)
  | call function argument => call function argument.joined

/-- Whether a tree is a negation. -/
def IsNegation : Expr → Prop
  | negate _ => True
  | _ => False

/-- Whether no power in a tree has a negation as its base. -/
def PlainBases : Expr → Prop
  | literal _ => True
  | binary op lhs rhs => (op = .pow → ¬ lhs.IsNegation) ∧ lhs.PlainBases ∧ rhs.PlainBases
  | negate operand => operand.PlainBases
  | call _ argument => argument.PlainBases

instance : DecidablePred IsNegation
  | negate _ => isTrue trivial
  | literal _ | binary .. | call .. => isFalse not_false

instance decidablePlainBases : DecidablePred PlainBases
  | literal _ => isTrue trivial
  | binary _ lhs rhs =>
    have := decidablePlainBases lhs
    have := decidablePlainBases rhs
    inferInstanceAs (Decidable (_ ∧ _ ∧ _))
  | negate operand => decidablePlainBases operand
  | call _ argument => decidablePlainBases argument

end Expr

/-- Words that spell a reading, with and without a power behind them. -/
structure Rereading.Spelled (reading : Rereading) (words : List Lexeme) : Prop where
  alone : Nonempty (Derivation .unary words reading.alone)
  power {words' : List Lexeme} {exponent : Expr} (right : Derivation .unary words' exponent) :
    Nonempty (Derivation .unary (words ++ .symbol .caret :: words') (reading.power exponent))

theorem Rereading.spelled_whole {words : List Lexeme} {tree : Expr}
    (primary : Derivation .primary words tree) (plain : ¬ IsSignedNumber words) :
    (whole tree).Spelled words :=
  ⟨⟨.primary primary⟩, fun right => ⟨.power plain primary right⟩⟩

namespace Expr

theorem not_isSignedNumber_cons {first second : Lexeme} {words : List Lexeme} :
    ¬ IsSignedNumber (first :: second :: words) := by
  rintro ⟨value, same, -⟩
  cases same

/-- What stands in parentheses is taken whole by a caret. -/
theorem spelled_group {words : List Lexeme} {tree : Expr} (inner : Derivation .expr words tree) :
    (Rereading.whole tree).Spelled (.symbol .openParen :: (words ++ [.symbol .closeParen])) := by
  apply Rereading.spelled_whole (.group inner)
  cases words <;> exact not_isSignedNumber_cons

theorem spelled_binary (op : BinaryOp) {left right : Rereading} {words words' : List Lexeme}
    (lhs : left.Spelled words) (rhs : right.Spelled words') :
    Nonempty (Derivation .expr (words ++ .symbol op.symbol :: words')
      (if op = .pow then left.power right.alone else binary op left.alone right.alone)) := by
  obtain ⟨first⟩ := lhs.alone
  obtain ⟨second⟩ := rhs.alone
  cases op with
  | add => exact ⟨.sum (.inl rfl) (.term (.unary first)) (.unary second)⟩
  | sub => exact ⟨.sum (.inr rfl) (.term (.unary first)) (.unary second)⟩
  | mul => exact ⟨.term (.product (.inl rfl) (.unary first) second)⟩
  | div => exact ⟨.term (.product (.inr rfl) (.unary first) second)⟩
  | pow =>
    obtain ⟨power⟩ := lhs.power second
    exact ⟨.term (.unary power)⟩

/-- The words of a formula spell the tree that it is read as. -/
theorem spelled_rereading {tree : Expr} (finite : tree.IsFinite) :
    tree.rereading.Spelled tree.words := by
  induction tree with
  | literal value =>
    rw [words]
    split
    case isTrue => exact spelled_group (.term (.unary (.primary (.number value))))
    case isFalse unsigned =>
      apply Rereading.spelled_whole (.number value)
      rintro ⟨_, same, signed⟩
      cases same
      exact unsigned signed
  | binary op lhs rhs ihLeft ihRight =>
    obtain ⟨inner⟩ := spelled_binary op (ihLeft finite.1) (ihRight finite.2)
    exact spelled_group inner
  | negate operand ih =>
    have inner := ih finite
    rw [words]
    split
    case h_1 value bare =>
      obtain ⟨rfl, unsigned⟩ := bare?_eq_some.mp bare
      have signed : isNegative (-value) = true := by
        rw [isNegative_neg (isNaN_of_isFinite finite), unsigned]
        rfl
      constructor
      · rw [rereading, bare]
        exact ⟨.primary (.number (-value))⟩
      · intro words' exponent right
        have power := Derivation.signedPower signed right
        rw [neg_neg finite] at power
        exact ⟨power⟩
    case h_2 other =>
      constructor
      · obtain ⟨alone⟩ := inner.alone
        rw [rereading, other]
        exact ⟨.negate alone⟩
      · intro words' exponent right
        obtain ⟨power⟩ := inner.power right
        exact ⟨.negate power⟩
  | call function argument ih =>
    obtain ⟨inner⟩ := (ih finite).alone
    exact Rereading.spelled_whole (.call function (.term (.unary inner))) not_isSignedNumber_cons

theorem power_eq {base : Expr} (plain : ¬ base.IsNegation) :
    base.rereading.power = binary .pow base.reread := by
  cases base with
  | negate => exact (plain trivial).elim
  | _ => rfl

theorem reread_binary {op : BinaryOp} {lhs rhs : Expr} (plain : op = .pow → ¬ lhs.IsNegation) :
    (binary op lhs rhs).reread = binary op lhs.reread rhs.reread := by
  change (if op = .pow then _ else _) = _
  split
  case isTrue same =>
    rw [power_eq (plain same), same]
    rfl
  case isFalse => rfl

/-- A formula is read as the tree itself, with signs joined, if and only if no power in the tree
has a negation as its base. -/
theorem reread_eq_joined_iff {tree : Expr} : tree.reread = tree.joined ↔ tree.PlainBases := by
  induction tree with
  | literal value => exact ⟨fun _ => trivial, fun _ => rfl⟩
  | binary op lhs rhs ihLeft ihRight =>
    by_cases plain : op = .pow → ¬ lhs.IsNegation
    · rw [reread_binary plain, joined, PlainBases, ← ihLeft, ← ihRight, binary.injEq]
      exact ⟨fun same => ⟨plain, same.2⟩, fun same => ⟨rfl, same.2⟩⟩
    · constructor
      · intro same
        obtain ⟨rfl, negation⟩ := Classical.not_imp.mp plain
        cases lhs with
        | negate operand => cases same
        | _ => exact (negation id).elim
      · intro bases
        exact (plain bases.1).elim
  | negate operand ih =>
    change operand.bare?.elim (negate operand.reread) _ = operand.bare?.elim _ _ ↔ _
    cases bare : operand.bare? with
    | none => rw [Option.elim_none, Option.elim_none, negate.injEq, ih, PlainBases]
    | some value =>
      obtain ⟨rfl, -⟩ := bare?_eq_some.mp bare
      exact ⟨fun _ => trivial, fun _ => rfl⟩
  | call function argument ih =>
    change call function argument.reread = call function argument.joined ↔ argument.PlainBases
    rw [call.injEq, ih, and_iff_right rfl]

/-- Joining signs leaves the value as it is. -/
theorem denote_joined (tree : Expr) : tree.joined.denote = tree.denote := by
  induction tree with
  | literal value => rfl
  | binary op lhs rhs ihLeft ihRight => rw [joined, denote, denote, ihLeft, ihRight]
  | negate operand ih =>
    rw [joined]
    cases bare : operand.bare? with
    | none => rw [Option.elim_none, denote, denote, ih]
    | some value =>
      obtain ⟨rfl, -⟩ := bare?_eq_some.mp bare
      rfl
  | call function argument ih => rw [joined, denote, denote, ih]

end Expr

end Calculator
