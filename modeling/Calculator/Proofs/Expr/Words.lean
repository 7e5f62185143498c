import Calculator.Expr
import Calculator.Proofs.Token.Wording

/-! # The words of a formula

A scan reads the formula of a tree as the words of the tree: those that the formula is put together
from, except that a minus sign joins a number without a sign that stands right after it. Numbers
have to be finite and names letters, as they are in every tree that was read from an equation.
-/

namespace Calculator

namespace Expr

/-- Whether all the numbers in a tree are finite. -/
def IsFinite : Expr → Prop
  | literal value => value.isFinite = true
  | binary _ lhs rhs => lhs.IsFinite ∧ rhs.IsFinite
  | negate operand => operand.IsFinite
  | call _ argument => argument.IsFinite

instance decidableIsFinite : DecidablePred IsFinite
  | literal _ => inferInstanceAs (Decidable (_ = true))
  | binary _ lhs rhs =>
    have := decidableIsFinite lhs
    have := decidableIsFinite rhs
    inferInstanceAs (Decidable (_ ∧ _))
  | negate operand => decidableIsFinite operand
  | call _ argument => decidableIsFinite argument

/-- Whether all the functions in a tree have names that a scan reads. -/
def IsNamed : Expr → Prop
  | literal _ => True
  | binary _ lhs rhs => lhs.IsNamed ∧ rhs.IsNamed
  | negate operand => operand.IsNamed
  | call function argument => IsName function ∧ argument.IsNamed

/-- The number that a tree consists of, if it has no sign: a minus sign before its formula joins
it. -/
def bare? : Expr → Option Float
  | literal value => if Binary64.isNegative value then none else some value
  | _ => none

/-- The words of the formula of a tree. -/
def words : Expr → List Lexeme
  | literal value =>
    if Binary64.isNegative value then
      [.symbol .openParen, .number value, .symbol .closeParen]
    else [.number value]
  | binary op lhs rhs =>
    .symbol .openParen :: (lhs.words ++ .symbol op.symbol :: rhs.words ++ [.symbol .closeParen])
  | negate operand =>
    match operand.bare? with
    | some value => [.number (-value)]
    | none => .symbol .minus :: operand.words
  | call function argument =>
    .function function :: .symbol .openParen :: (argument.words ++ [.symbol .closeParen])

theorem bare?_eq_some {tree : Expr} {value : Float} :
    tree.bare? = some value ↔ tree = literal value ∧ Binary64.isNegative value = false := by
  cases tree with
  | literal other =>
    simp only [bare?, literal.injEq]
    split
    case isTrue signed =>
      constructor
      · intro same
        cases same
      · rintro ⟨rfl, unsigned⟩
        rw [signed] at unsigned
        cases unsigned
    case isFalse unsigned =>
      constructor
      · intro same
        cases same
        exact ⟨rfl, Bool.eq_false_iff.mpr unsigned⟩
      · rintro ⟨rfl, -⟩
        rfl
  | _ => simp [bare?]

end Expr

namespace Scanner

open Calculator.Expr Binary64

/-- A formula that is no bare number does not start like a literal. -/
theorem startsLiteral_formula {tree : Expr} (named : tree.IsNamed) (other : tree.bare? = none) :
    startsLiteral tree.formula = false := by
  cases tree with
  | literal value =>
    rw [bare?] at other
    split at other
    case isTrue signed =>
      rw [formula, if_pos signed]
      rfl
    case isFalse => cases other
  | binary => rfl
  | negate => rfl
  | call function argument =>
    obtain ⟨⟨nonempty, letters⟩, -⟩ := named
    obtain ⟨first, more, name⟩ := List.exists_cons_of_ne_nil nonempty
    rw [formula, name]
    rw [name] at letters
    exact (solid_of_isAlpha (letters first (List.mem_cons_self ..))).2.2

variable {value : Float} {previous : Option Lexeme}

/-- A number without a sign is written as a literal. -/
theorem exists_numeral_unsigned (finite : value.isFinite = true)
    (unsigned : isNegative value = false) :
    ∃ numeral : Numeral, numeral.IsLiteral ∧ NumberStyle.plain.write value = numeral.chars ∧
      numeral.value = value := by
  obtain ⟨numeral, literal, chars, same⟩ := exists_numeral_magnitude finite
  rw [ofCode_code unsigned] at same
  exact ⟨numeral, literal, by rw [plain_write_unsigned finite unsigned, chars], same⟩

/-- A number with a sign is written as a minus sign and a literal. -/
theorem exists_numeral_signed (finite : value.isFinite = true)
    (signed : isNegative value = true) :
    ∃ numeral : Numeral, numeral.IsLiteral ∧
      NumberStyle.plain.write value = '-' :: numeral.chars ∧ -numeral.value = value := by
  obtain ⟨numeral, literal, chars, same⟩ := exists_numeral_magnitude finite
  refine ⟨numeral, literal, by rw [plain_write_signed finite signed, chars], ?_⟩
  rw [same, neg_ofCode_code finite signed]

/-- A scan takes the words of a formula off it where an operand can start. -/
theorem worded_formula {tree : Expr} (finite : tree.IsFinite) (named : tree.IsNamed) :
    Worded true none tree.formula tree.words := by
  induction tree with
  | literal value =>
    unfold formula words
    split
    case isTrue signed =>
      obtain ⟨numeral, literal, chars, rfl⟩ := exists_numeral_signed finite signed
      have number : Worded true none ('-' :: numeral.chars) [.number (-numeral.value)] :=
        .signed literal trivial
      rw [chars]
      exact number.group none
    case isFalse unsigned =>
      obtain ⟨numeral, literal, chars, rfl⟩ :=
        exists_numeral_unsigned finite (Bool.eq_false_iff.mpr unsigned)
      rw [chars]
      exact .literal literal
  | binary op lhs rhs ihLeft ihRight =>
    have text : (binary op lhs rhs).formula =
        '(' :: (((lhs.formula ++ [' ']) ++ op.symbol.char :: ' ' :: rhs.formula) ++ [')']) := by
      simp [formula, BinaryOp.char]
    have follows : OperandFollows (some (.symbol op.symbol)) :=
      (by cases op <;> decide : op.symbol ≠ .closeParen)
    have left := (ihLeft finite.1 named.1).append_space
    have right := (ihRight finite.2 named.2).congr (iff_of_true trivial follows)
    rw [text, words]
    exact (left.append op.symbol right.space_cons fun _ => rfl).group none
  | negate inner ih =>
    have named : inner.IsNamed := named
    rw [formula, words]
    split
    case h_1 number bare =>
      obtain ⟨rfl, unsigned⟩ := bare?_eq_some.mp bare
      obtain ⟨numeral, literal, chars, rfl⟩ := exists_numeral_unsigned finite unsigned
      rw [formula, if_neg (Bool.eq_false_iff.mp unsigned), chars]
      exact .signed literal trivial
    case h_2 other =>
      have follows : OperandFollows (some (.symbol .minus)) :=
        (by decide : Symbol.minus ≠ .closeParen)
      have operand := (ih finite named).congr (iff_of_true trivial follows)
      exact Worded.nil.append .minus operand fun _ => startsLiteral_formula named other
  | call function argument ih =>
    obtain ⟨isName, named⟩ := named
    have text : (call function argument).formula =
        function.toList ++ '(' :: (argument.formula ++ [')']) := by
      simp [formula]
    rw [text]
    exact (ih finite named).call isName

end Scanner

end Calculator
