import Calculator.Proofs.Expr.Equation
import Calculator.Proofs.Expr.Value
import Calculator.Proofs.Parse.Limits
import Calculator.Proofs.Token.Enabling

/-! # Larger limits

Limits only ever turn an answer into a fault that says so. Whatever else an equation comes to, a
value or another fault with its place in the equation, it comes to the same under larger limits.
Stage by stage the two solutions run side by side; the tree of an equation that is read keeps the
limit on its height, so its evaluation meets no limit at all.
-/

namespace Calculator

/-- Whether other limits allow whatever these allow. -/
structure Limits.Within (limits wide : Limits) : Prop where
  depth : limits.maxDepth ≤ wide.maxDepth
  height : limits.maxHeight ≤ wide.maxHeight
  length : limits.maxLength ≤ wide.maxLength
  functions : limits.functions = true → wide.functions = true

/-- Whether a fault can go away with larger limits: it says that a limit is exceeded, or it is that
of a letter and only the larger limits enable functions. -/
def Fault.Lifts (limits wide : Limits) : Fault → Prop
  | .scan (.inputTooLong ..) | .parse (.tooComplex ..) | .parse (.tooTall ..)
  | .eval (.tooDeep ..) => True
  | .scan fault => limits.functions = false ∧ wide.functions = true ∧ fault.IsLetter
  | .parse _ | .eval _ => False

variable {limits wide : Limits} {equation : String}

theorem Fault.lifts_of_letter {fault : ScanFault}
    (letter : limits.functions = false ∧ wide.functions = true ∧ fault.IsLetter) :
    (scan fault).Lifts limits wide := by
  cases fault with
  | inputTooLong => trivial
  | _ => exact letter

theorem Fault.lifts_of_exceeded {fault : ParseFault} (exceeded : limits.Exceeded fault) :
    (parse fault).Lifts limits wide := by
  cases fault with
  | tooComplex | tooTall => trivial
  | _ => exact exceeded

theorem tokenize_of_wider (within : limits.Within wide)
    (settled : ∀ fault, tokenize limits equation = .error fault →
      ¬ (Fault.scan fault).Lifts limits wide) :
    tokenize wide equation = tokenize limits equation := by
  have short : equation.utf8ByteSize ≤ limits.maxLength := by
    by_contra long
    have rejected : tokenize limits equation =
        .error (.inputTooLong equation.utf8ByteSize limits.maxLength) :=
      if_pos (Nat.lt_of_not_le long)
    exact settled _ rejected trivial
  have collected : Token.collect (scan wide.functions equation) =
      Token.collect (scan limits.functions equation) := by
    apply collect_scan_of_wider within.functions
    intro fault failed letter
    apply settled fault _ (Fault.lifts_of_letter letter)
    rw [tokenize, if_neg (Nat.not_lt.mpr short), failed]
  have short' := Nat.le_trans short within.length
  rw [tokenize, tokenize, if_neg (Nat.not_lt.mpr short), if_neg (Nat.not_lt.mpr short'), collected]

theorem parseEquation_of_wider (within : limits.Within wide)
    (settled : ∀ fault, parseEquation limits equation = .error fault → ¬ fault.Lifts limits wide) :
    parseEquation wide equation = parseEquation limits equation := by
  have tokenized : tokenize wide equation = tokenize limits equation := by
    apply tokenize_of_wider within
    intro fault failed
    apply settled
    rw [parseEquation, failed]
  rw [parseEquation, parseEquation, tokenized]
  cases words : tokenize limits equation with
  | error fault => rfl
  | ok tokens =>
    dsimp only
    rw [parse_of_wider _ within.depth within.height]
    intro fault failed exceeded
    apply settled (.parse fault) _ (Fault.lifts_of_exceeded exceeded)
    rw [parseEquation, words]
    dsimp only
    rw [failed]

/-- What an equation comes to is the same under larger limits, value or fault, unless it is a fault
that these limits can make go away. -/
theorem solve_of_wider (within : limits.Within wide)
    (settled : ∀ fault, solve limits equation = .error fault → ¬ fault.Lifts limits wide) :
    solve wide equation = solve limits equation := by
  have parsed : parseEquation wide equation = parseEquation limits equation := by
    apply parseEquation_of_wider within
    intro fault failed
    apply settled
    rw [solve, failed]
  rw [solve, solve, parsed]
  cases accepted : parseEquation limits equation with
  | error fault => rfl
  | ok tree =>
    -- The parser has kept the limit on height, so neither evaluation is cut off.
    have room := height_le_of_parseEquation accepted
    dsimp only
    rw [Expr.evaluate_congr (Nat.le_trans room within.height) room rfl]

/-- Narrow limits that the first two equations just keep change neither the value of one nor the
fault of the other, and the third one has a foreign character whether functions are enabled or
not. -/
theorem solve_of_wider_of_narrow :
    let narrow : Limits := { maxDepth := 1, maxHeight := 2, maxLength := 7, functions := false }
    narrow.Within {} ∧
      (solve narrow "2*(4-3)" = .ok 2 ∧ solve {} "2*(4-3)" = .ok 2) ∧
      (solve narrow "2/(3-3)" = .error (.eval .divisionByZero) ∧
        solve {} "2/(3-3)" = .error (.eval .divisionByZero)) ∧
      (solve narrow "2 % 3" = .error (.scan (.unexpectedCharacter '%' ⟨2, 3⟩)) ∧
        solve {} "2 % 3" = .error (.scan (.unexpectedCharacter '%' ⟨2, 3⟩))) := by
  intro narrow
  have within : narrow.Within {} := ⟨by decide, by decide, by decide, by decide⟩
  have product : solve narrow "2*(4-3)" = .ok 2 := by decide +kernel
  have quotient : solve narrow "2/(3-3)" = .error (.eval .divisionByZero) := by decide +kernel
  have foreign : solve narrow "2 % 3" = .error (.scan (.unexpectedCharacter '%' ⟨2, 3⟩)) := by
    decide +kernel
  refine ⟨within, ⟨product, ?_⟩, ⟨quotient, ?_⟩, foreign, ?_⟩
  · rw [solve_of_wider within, product]
    intro fault failed
    rw [product] at failed
    cases failed
  · rw [solve_of_wider within, quotient]
    intro fault failed
    rw [quotient] at failed
    cases failed
    exact not_false
  · rw [solve_of_wider within, foreign]
    intro fault failed lifts
    rw [foreign] at failed
    cases failed
    have letter : '%'.isAlpha = true := lifts.2.2
    exact absurd letter (by decide)

end Calculator
