import Calculator.Proofs.Expr.Polish
import Calculator.Proofs.Token.Progress

/-! # Printed results are equations

The text that a result is printed as is one number, sign and all, and nothing else. It is an
equation itself, and one that comes to the number it was printed for: neither a level nor an edge of
a tree is needed for it, and the number is the nearest one to its own digits.
-/

namespace Calculator

open Scanner

variable {value : Float} {limits : Limits} {equation : String}

/-- The whole text of a finite number is taken off as that number. -/
theorem Lexeme.munches_plainText (finite : value.isFinite = true) :
    (number value).Munches none (plainText value).toList [] := by
  obtain ⟨numeral, literal, ⟨chars, same⟩ | ⟨chars, same⟩⟩ := exists_numeral_plainText finite
  · exact ⟨rfl, numeral, literal, .inl ⟨chars, same.symm⟩⟩
  · exact ⟨rfl, numeral, literal, .inr ⟨trivial, chars, same.symm⟩⟩

/-- A scan reads the text of a finite number as that number, from its first byte to its last. -/
theorem scan_plainText (finite : value.isFinite = true) (functions : Bool) :
    scan functions (plainText value) =
      [.ok ⟨.number value, ⟨0, (plainText value).utf8ByteSize⟩⟩] := by
  have munches := Lexeme.munches_plainText finite
  have size : (plainText value).utf8ByteSize = (plainText value).toList.length := by
    rw [← length_utf8_toList, length_utf8 munches.ascii]
  have noSpace : ∀ c ∈ [], isSpace c = true := List.forall_mem_nil _
  have cut : Cut functions 0 none ([] ++ (plainText value).toList ++ []) _ :=
    .token noSpace munches trivial (.done noSpace)
  rw [List.nil_append, List.append_nil, List.length_nil, Nat.zero_add, Nat.zero_add] at cut
  rw [size]
  exact items_of_cut cut

/-- A number by itself is parsed under all limits. -/
theorem parse_number (limits : Limits) (value : Float) (place : Span) :
    parse limits [⟨.number value, place⟩] = .ok (.literal value) := by
  have unsigned : Parse.signsPower value [] = false := Bool.and_false _
  refine parse_eq_ok_iff_run.mpr ⟨place, ?_⟩
  apply Parse.Run.expression (.number unsigned) (Nat.zero_le _)
  exact .stop trivial

/-- A finite number by itself has its value under all limits. -/
theorem Expr.evaluate_literal (finite : value.isFinite = true) (limits : Limits) :
    (literal value).evaluate limits = .ok value := by
  have unlimited : (literal value).value limits.maxHeight 0 = .ok value :=
    value_eq_denote (Nat.zero_le _)
  rw [evaluate, unlimited]
  exact if_pos finite

theorem solve_plainText (finite : value.isFinite = true)
    (short : (plainText value).utf8ByteSize ≤ limits.maxLength) :
    solve limits (plainText value) = .ok value := by
  have tokenized : tokenize limits (plainText value) =
      .ok [⟨.number value, ⟨0, (plainText value).utf8ByteSize⟩⟩] :=
    tokenize_eq_ok_iff.mpr ⟨short, scan_plainText finite _, rfl⟩
  have accepted : parseEquation limits (plainText value) = .ok (.literal value) :=
    parseEquation_eq_ok_iff.mpr ⟨_, tokenized, parse_number _ _ _⟩
  rw [solve, accepted]
  dsimp only
  rw [Expr.evaluate_literal finite]

/-- Whether a text is printed for a number: it is read as the number and nothing else, and it comes
to the number with all its bits, however narrow the limits are that it is short enough for. -/
structure Prints (text : String) (value : Float) : Prop where
  scanned : ∀ functions, scan functions text = [.ok ⟨.number value, ⟨0, text.utf8ByteSize⟩⟩]
  solved : ∀ limits : Limits, text.utf8ByteSize ≤ limits.maxLength → solve limits text = .ok value

/-- The text of every finite number is an equation for it. So is what the program prints for the
value of an equation, which always is a finite number. -/
theorem printed_results_solve :
    (∀ value : Float, value.isFinite = true → Prints (plainText value) value) ∧
    ∀ limits equation value, solve limits equation = .ok value →
      ∃ text, (CommandLine.present .value limits equation).output = text ++ "\n" ∧
        Prints text value := by
  have prints {value : Float} (finite : value.isFinite = true) : Prints (plainText value) value :=
    ⟨scan_plainText finite, fun limits => solve_plainText finite⟩
  refine ⟨fun value => prints, fun limits equation value solved => ?_⟩
  refine ⟨plainText value, ?_, prints (isFinite_of_solve solved)⟩
  rw [CommandLine.present, CommandLine.Program.present, solved]

/-- The least number above zero, negative zero, and the result of a quotient; a result of the
narrowest limits is read back under them. -/
theorem printed_results_solve_of_quotient :
    let least := Float.ofBits 1
    let narrow : Limits := { maxDepth := 0, maxHeight := 0, maxLength := 2, functions := false }
    (least.isFinite = true ∧ Prints (plainText least) least) ∧
    ((-0.0 : Float).isFinite = true ∧ plainText (-0.0) = "-0" ∧ solve narrow "-0" = .ok (-0.0)) ∧
    solve {} "2/-3" = .ok (2 / -3) ∧
      (CommandLine.present .value {} "2/-3").output = "-0.6666666666666666\n" ∧
      solve {} "-0.6666666666666666" = .ok (2 / -3) := by
  intro least narrow
  obtain ⟨numbers, results⟩ := printed_results_solve
  have finite : least.isFinite = true := by decide +kernel
  have finite' : (-0.0 : Float).isFinite = true := by decide +kernel
  have zero : plainText (-0.0) = "-0" := by decide +kernel
  have quotient : solve {} "2/-3" = .ok (2 / -3) := by decide +kernel
  obtain ⟨text, printed, prints⟩ := results _ _ _ quotient
  have shown : (CommandLine.present .value {} "2/-3").output = "-0.6666666666666666\n" := by
    decide +kernel
  have same : text = "-0.6666666666666666" :=
    (String.append_left_inj "\n").mp (printed.symm.trans shown)
  refine ⟨⟨finite, numbers _ finite⟩, ⟨finite', zero, ?_⟩, quotient, shown, ?_⟩
  · have solved := (numbers _ finite').solved narrow
    rw [zero] at solved
    exact solved (by decide)
  · rw [same] at prints
    exact prints.solved {} (by decide)

end Calculator
