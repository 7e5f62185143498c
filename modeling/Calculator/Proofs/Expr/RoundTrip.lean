import Calculator.Proofs.Expr.Equation
import Calculator.Proofs.Expr.Reread
import Calculator.Proofs.Expr.Value

/-! # Reading formulas again

The formula of a tree that was read from an equation is an equation itself. Under limits that are
no smaller than its length it is read as the reread tree.
-/

namespace Calculator

open Grammar

variable {limits wide : Limits} {tree : Expr} {equation : String}

theorem Grammar.Derivation.isNamed {stratum : Stratum} {words : List Lexeme}
    (derivation : Derivation stratum words tree)
    (names : ∀ name, .function name ∈ words → IsName name) : tree.IsNamed := by
  induction derivation with
  | number => trivial
  | primary _ ih | unary _ ih | term _ ih => exact ih names
  | group _ ih => exact ih fun name member => names name (by simp [member])
  | call name _ ih =>
    exact ⟨names name (List.mem_cons_self ..), ih fun name member => names name (by simp [member])⟩
  | negate _ ih => exact ih fun name member => names name (by simp [member])
  | signedPower _ _ ih => exact ⟨trivial, ih fun name member => names name (by simp [member])⟩
  | power _ _ _ left right | product _ _ _ left right | sum _ _ _ left right =>
    exact ⟨left fun name member => names name (by simp [member]),
      right fun name member => names name (by simp [member])⟩

/-- The functions in the tree of an equation have names that a scan reads. -/
theorem isNamed_of_parseEquation (accepted : parseEquation limits equation = .ok tree) :
    tree.IsNamed := by
  obtain ⟨words, worded, ⟨derivation⟩⟩ := spells_of_parseEquation accepted
  exact derivation.isNamed fun name member => worded.isName member

theorem parseEquation_formula (finite : tree.IsFinite) (named : tree.IsNamed)
    (functions : wide.functions = true) (ample : wide.Ample tree.text) :
    parseEquation wide tree.text = .ok tree.reread := by
  obtain ⟨derivation⟩ := (Expr.spelled_rereading finite).alone
  have worded : Scanner.Worded wide.functions none tree.text.toList tree.words := by
    rw [functions, Expr.text, String.toList_ofList]
    exact Scanner.worded_formula finite named
  exact parseEquation_of_spells worded ⟨.term (.unary derivation)⟩ ample

/-- The formula of a tree that was read from an equation is accepted, and read as the reread tree.
That is the tree itself, with signs joined, if and only if no power in it has a negation as its
base, and then it has the same answer. -/
theorem parseEquation_text (accepted : parseEquation limits equation = .ok tree)
    (finite : tree.IsFinite) (functions : wide.functions = true)
    (long : tree.text.utf8ByteSize ≤ wide.maxLength)
    (deep : tree.text.utf8ByteSize ≤ wide.maxDepth)
    (tall : tree.text.utf8ByteSize ≤ wide.maxHeight) :
    parseEquation wide tree.text = .ok tree.reread ∧
      (tree.reread = tree.joined ↔ tree.PlainBases) ∧
      ∀ ample ample' : Limits, tree.PlainBases → tree.height ≤ ample.maxHeight →
        tree.reread.height ≤ ample'.maxHeight →
          tree.reread.evaluate ample' = tree.evaluate ample := by
  have named := isNamed_of_parseEquation accepted
  refine ⟨parseEquation_formula finite named functions ⟨long, deep, tall⟩,
    Expr.reread_eq_joined_iff, ?_⟩
  intro ample ample' plain room room'
  have same := Expr.reread_eq_joined_iff.mpr plain
  apply Expr.evaluate_congr room' room
  rw [same, Expr.denote_joined]

/-- The square of a negated number is not read as itself; the double of one is. -/
theorem parseEquation_square_and_double :
    let square : Expr := .binary .pow (.negate (.literal 5)) (.literal 2)
    let double : Expr := .binary .mul (.negate (.literal 5)) (.literal 2)
    (parseEquation {} "(-(5))^2" = .ok square ∧ ¬ square.PlainBases ∧
      square.text = "(-5 ^ 2)" ∧ parseEquation {} square.text =
        .ok (.negate (.binary .pow (.literal 5) (.literal 2)))) ∧
    (parseEquation {} "(-(5))*2" = .ok double ∧ double.PlainBases ∧
      double.reread.evaluate {} = double.evaluate {}) := by
  intro square double
  have acceptedSquare : parseEquation {} "(-(5))^2" = .ok square :=
    eq_ok_of_toOption (by decide +kernel)
  have acceptedDouble : parseEquation {} "(-(5))*2" = .ok double :=
    eq_ok_of_toOption (by decide +kernel)
  obtain ⟨againSquare, -, -⟩ := @parseEquation_text {} {} square _ acceptedSquare
    (by decide +kernel) rfl (by decide +kernel) (by decide +kernel) (by decide +kernel)
  obtain ⟨-, -, sameDouble⟩ := @parseEquation_text {} {} double _ acceptedDouble
    (by decide +kernel) rfl (by decide +kernel) (by decide +kernel) (by decide +kernel)
  refine ⟨⟨acceptedSquare, by decide, by decide +kernel, againSquare⟩, acceptedDouble,
    by decide, ?_⟩
  exact sameDouble {} {} (by decide) (by decide) (by decide)

end Calculator
