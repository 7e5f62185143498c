import Calculator.Proofs.Expr.Denotes
import Calculator.Proofs.Expr.Equation
import Calculator.Proofs.Parse.Substitution

/-! # Equations made of equations

An equation in parentheses is an operand of a longer one. Whatever stands around the parentheses,
the tree of the whole is a frame around the tree of the part, and another equation in the same
parentheses gets the same frame.
-/

namespace Calculator

open Grammar Scanner

/-- Trees of the same value make trees of the same value in any frame. -/
theorem Expr.Frame.denote_fill_congr (frame : Frame) {tree other : Expr}
    (same : tree.denote = other.denote) :
    (frame.fill tree).denote = (frame.fill other).denote := by
  induction frame with
  | here => exact same
  | left op lhs rhs ih | right op lhs rhs ih => rw [fill, fill, denote, denote, ih]
  | negate operand ih => rw [fill, fill, denote, denote, ih]
  | call function argument ih => rw [fill, fill, denote, denote, ih]

/-- An operation on groups spells the operation on their trees. -/
theorem spells_operation {words words' : List Lexeme} {lhs rhs : Expr} (op : BinaryOp)
    (left : Spells words lhs) (right : Spells words' rhs) :
    Spells (enclose [] words [] ++ .symbol op.symbol :: enclose [] words' [])
      (.binary op lhs rhs) := by
  obtain ⟨left⟩ := left
  obtain ⟨right⟩ := right
  have base : Derivation .primary (enclose [] words []) lhs := .group left
  have operand : Derivation .unary (enclose [] words' []) rhs := .primary (.group right)
  cases op with
  | add => exact ⟨.sum (.inl rfl) (.term (.unary (.primary base))) (.unary operand)⟩
  | sub => exact ⟨.sum (.inr rfl) (.term (.unary (.primary base))) (.unary operand)⟩
  | mul => exact ⟨.term (.product (.inl rfl) (.unary (.primary base)) operand)⟩
  | div => exact ⟨.term (.product (.inr rfl) (.unary (.primary base)) operand)⟩
  | pow => exact ⟨.term (.unary (.power not_isSignedNumber_enclose base operand))⟩

section Equations

variable {limits limits' narrow wide : Limits} {first second before after : String}
  {lhs rhs whole : Expr}

theorem parseEquation_group (accepted : parseEquation limits first = .ok lhs)
    (same : limits.functions = wide.functions) (ample : wide.Ample ("(" ++ first ++ ")")) :
    parseEquation wide ("(" ++ first ++ ")") = .ok lhs := by
  obtain ⟨words, worded, ⟨derivation⟩⟩ := spells_of_parseEquation accepted
  rw [same] at worded
  refine parseEquation_of_spells ?_ ⟨.term (.unary (.primary (.group derivation)))⟩ ample
  have text : ("(" ++ first ++ ")").toList = '(' :: (first.toList ++ [')']) := by simp
  rw [text]
  exact worded.group none

theorem parseEquation_operation (accepted : parseEquation limits first = .ok lhs)
    (accepted' : parseEquation limits' second = .ok rhs)
    (same : limits.functions = wide.functions) (same' : limits'.functions = wide.functions)
    (op : BinaryOp)
    (ample : wide.Ample ("(" ++ first ++ ")" ++ op.char.toString ++ "(" ++ second ++ ")")) :
    parseEquation wide ("(" ++ first ++ ")" ++ op.char.toString ++ "(" ++ second ++ ")") =
      .ok (.binary op lhs rhs) := by
  obtain ⟨words, worded, spells⟩ := spells_of_parseEquation accepted
  obtain ⟨words', worded', spells'⟩ := spells_of_parseEquation accepted'
  rw [same] at worded
  rw [same'] at worded'
  refine parseEquation_of_spells ?_ (spells_operation op spells spells') ample
  have text : ("(" ++ first ++ ")" ++ op.char.toString ++ "(" ++ second ++ ")").toList =
      ('(' :: (first.toList ++ [')'])) ++
        op.symbol.char :: '(' :: (second.toList ++ [')']) := by
    simp [BinaryOp.char]
  rw [text]
  exact (worded.group none).append op.symbol (worded'.group _) fun _ => rfl

theorem parseEquation_negation (accepted : parseEquation limits first = .ok lhs)
    (same : limits.functions = wide.functions) (ample : wide.Ample ("-(" ++ first ++ ")")) :
    parseEquation wide ("-(" ++ first ++ ")") = .ok (.negate lhs) := by
  obtain ⟨words, worded, ⟨derivation⟩⟩ := spells_of_parseEquation accepted
  rw [same] at worded
  refine parseEquation_of_spells ?_
    ⟨.term (.unary (.negate (.primary (.group derivation))))⟩ ample
  have text : ("-(" ++ first ++ ")").toList = '-' :: '(' :: (first.toList ++ [')']) := by simp
  rw [text]
  exact Worded.nil.append .minus (worded.group _) fun _ => rfl

theorem parseEquation_call (accepted : parseEquation limits first = .ok lhs)
    (same : limits.functions = wide.functions) {name : String} (enabled : wide.functions = true)
    (isName : IsName name) (ample : wide.Ample (name ++ "(" ++ first ++ ")")) :
    parseEquation wide (name ++ "(" ++ first ++ ")") = .ok (.call name lhs) := by
  obtain ⟨words, worded, ⟨derivation⟩⟩ := spells_of_parseEquation accepted
  rw [same, enabled] at worded
  refine parseEquation_of_spells ?_
    ⟨.term (.unary (.primary (.call name derivation)))⟩ ample
  have text : (name ++ "(" ++ first ++ ")").toList =
      name.toList ++ '(' :: (first.toList ++ [')']) := by simp
  rw [text, enabled]
  exact worded.call isName

/-- An equation in parentheses is a part of the tree of any equation it stands in, and another one
in its place puts its tree into the same frame. -/
theorem exists_frame_of_parseEquation (accepted : parseEquation limits first = .ok lhs)
    (same : limits.functions = narrow.functions)
    (around : parseEquation narrow (before ++ "(" ++ first ++ ")" ++ after) = .ok whole) :
    ∃ frame : Expr.Frame, frame.fill lhs = whole ∧
      ∀ {limits' wide : Limits} {second : String} {rhs : Expr},
        parseEquation limits' second = .ok rhs → limits'.functions = wide.functions →
        narrow.functions = wide.functions →
        wide.Ample (before ++ "(" ++ second ++ ")" ++ after) →
          parseEquation wide (before ++ "(" ++ second ++ ")" ++ after) = .ok (frame.fill rhs) := by
  have text (inside : String) : (before ++ "(" ++ inside ++ ")" ++ after).toList =
      before.toList ++ '(' :: (inside.toList ++ ')' :: after.toList) := by simp
  obtain ⟨words, worded, ⟨derivation⟩⟩ := spells_of_parseEquation accepted
  obtain ⟨_, wordedWhole, ⟨derivationWhole⟩⟩ := spells_of_parseEquation around
  rw [text] at wordedWhole
  obtain ⟨front, inner, back, rfl, wordedFront, wordedInner, wordedBack⟩ :=
    Worded.enclose_iff.mp wordedWhole
  rw [same] at worded
  obtain rfl := worded.unique wordedInner
  obtain ⟨frame, fills, frames⟩ := derivationWhole.framed derivation rfl
  refine ⟨frame, fills, fun accepted' same' same'' ample => ?_⟩
  obtain ⟨words', worded', spells'⟩ := spells_of_parseEquation accepted'
  refine parseEquation_of_spells ?_ (frames words' _ spells') ample
  rw [text]
  rw [same''] at wordedFront wordedBack
  rw [same'] at worded'
  exact Worded.enclose_iff.mpr ⟨front, words', back, rfl, wordedFront, worded', wordedBack⟩

/-- Equations compose: in parentheses they are operands of every operation, and whatever stands
around the parentheses, what is in them can be exchanged for another equation. -/
theorem parseEquation_compose (accepted : parseEquation limits first = .ok lhs)
    (accepted' : parseEquation limits' second = .ok rhs)
    (same : limits.functions = wide.functions) (same' : limits'.functions = wide.functions) :
    (wide.Ample ("(" ++ first ++ ")") → parseEquation wide ("(" ++ first ++ ")") = .ok lhs) ∧
    (∀ op : BinaryOp,
      wide.Ample ("(" ++ first ++ ")" ++ op.char.toString ++ "(" ++ second ++ ")") →
        parseEquation wide ("(" ++ first ++ ")" ++ op.char.toString ++ "(" ++ second ++ ")") =
          .ok (.binary op lhs rhs)) ∧
    (wide.Ample ("-(" ++ first ++ ")") →
      parseEquation wide ("-(" ++ first ++ ")") = .ok (.negate lhs)) ∧
    (∀ name, wide.functions = true → IsName name → wide.Ample (name ++ "(" ++ first ++ ")") →
      parseEquation wide (name ++ "(" ++ first ++ ")") = .ok (.call name lhs)) ∧
    ∀ before after whole,
      parseEquation wide (before ++ "(" ++ first ++ ")" ++ after) = .ok whole →
      wide.Ample (before ++ "(" ++ second ++ ")" ++ after) →
        ∃ frame : Expr.Frame, frame.fill lhs = whole ∧
          parseEquation wide (before ++ "(" ++ second ++ ")" ++ after) = .ok (frame.fill rhs) ∧
          (lhs.denote = rhs.denote →
            solve wide (before ++ "(" ++ first ++ ")" ++ after) =
              solve wide (before ++ "(" ++ second ++ ")" ++ after)) := by
  refine ⟨parseEquation_group accepted same,
    parseEquation_operation accepted accepted' same same',
    parseEquation_negation accepted same,
    fun name enabled isName => parseEquation_call accepted same enabled isName, ?_⟩
  intro before after whole around ample
  obtain ⟨frame, rfl, frames⟩ := exists_frame_of_parseEquation accepted same around
  have exchanged := frames accepted' same' rfl ample
  refine ⟨frame, rfl, exchanged, fun value => ?_⟩
  have answers : (frame.fill lhs).evaluate wide = (frame.fill rhs).evaluate wide :=
    Expr.evaluate_congr (height_le_of_parseEquation around)
      (height_le_of_parseEquation exchanged) (frame.denote_fill_congr value)
  simp only [solve, around, exchanged, answers]

/-- A negative number between spaces is the base of a power, and can be exchanged for a sum. -/
theorem parseEquation_compose_of_cube :
    let limits : Limits := {}
    let sum : Expr := .binary .add (.literal 1) (.literal 2)
    let square : Expr := .binary .pow (.literal (-3)) (.literal 2)
    (parseEquation limits " -3 " = .ok (.literal (-3)) ∧
      parseEquation limits "1+2" = .ok sum) ∧
    parseEquation limits ("(" ++ " -3 " ++ ")" ++ BinaryOp.pow.char.toString ++ "(" ++ "1+2" ++ ")")
      = .ok (.binary .pow (.literal (-3)) sum) ∧
    parseEquation limits ("2*" ++ "(" ++ " -3 " ++ ")" ++ "^2") =
      .ok (.binary .mul (.literal 2) square) ∧
    ∃ frame : Expr.Frame, frame.fill (.literal (-3)) = .binary .mul (.literal 2) square ∧
      parseEquation limits ("2*" ++ "(" ++ "1+2" ++ ")" ++ "^2") = .ok (frame.fill sum) := by
  intro limits sum square
  have accepted : parseEquation limits " -3 " = .ok (.literal (-3)) :=
    eq_ok_of_toOption (by decide +kernel)
  have accepted' : parseEquation limits "1+2" = .ok sum := eq_ok_of_toOption (by decide +kernel)
  have around : parseEquation limits ("2*" ++ "(" ++ " -3 " ++ ")" ++ "^2") =
      .ok (.binary .mul (.literal 2) square) := eq_ok_of_toOption (by decide +kernel)
  have ⟨_, operation, _, _, exchange⟩ := parseEquation_compose accepted accepted' rfl rfl
  obtain ⟨frame, fills, exchanged, -⟩ := exchange "2*" "^2" _ around
    ⟨by decide +kernel, by decide +kernel, by decide +kernel⟩
  exact ⟨⟨accepted, accepted'⟩,
    operation .pow ⟨by decide +kernel, by decide +kernel, by decide +kernel⟩, around, frame,
    fills, exchanged⟩

end Equations

end Calculator
