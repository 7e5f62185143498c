import Calculator.Proofs.Parse.Places
import Calculator.Proofs.Token.Spacing
import Calculator.Proofs.Token.Tokenize
import Calculator.Solve

/-! # Space in equations

An equation comes to the same, the place of a fault apart, however much space stands between its
tokens: a scan hands on the same words at other places, and no later stage looks at places.
-/

namespace Calculator

variable {limits : Limits} {equation spaced : String} {tokens others : List Token}

/-- Where an equation that is short enough is cut into tokens, only its neighbours are left to be
refused. -/
theorem tokenize_of_scan (short : equation.utf8ByteSize ≤ limits.maxLength)
    (scanned : scan limits.functions equation = tokens.map .ok) :
    tokenize limits equation = (Token.firstClash? tokens).elim (.ok tokens) .error := by
  rw [tokenize, if_neg (Nat.not_lt.mpr short), Token.collect_eq_ok_iff.mpr scanned]
  dsimp only
  cases Token.firstClash? tokens <;> rfl

/-- Tokens that say the same either have no neighbours that exclude each other, or clash alike. -/
theorem firstClash?_cases (same : Token.lexemes others = Token.lexemes tokens) :
    (∃ fault fault', Token.firstClash? tokens = some fault ∧ Token.firstClash? others = some fault' ∧
      fault'.unplaced = fault.unplaced) ∨
    Token.firstClash? tokens = none ∧ Token.firstClash? others = none := by
  have clashes := Token.firstClash?_congr same
  cases clash : Token.firstClash? tokens with
  | some fault =>
    rw [clash] at clashes
    obtain ⟨fault', clash', alike⟩ := Option.map_eq_some_iff.mp clashes
    exact .inl ⟨fault, fault', rfl, clash', alike⟩
  | none =>
    rw [clash] at clashes
    exact .inr ⟨rfl, Option.map_eq_none_iff.mp clashes⟩

/-- Answers that are the same but for a change of values and of faults are values that are changed
into the same one, or faults that are. -/
theorem map_mapError_cases {ε ε' α β : Type} {change : ε → ε'} {view : α → β}
    {answer answer' : Except ε α}
    (same : (answer'.map view).mapError change = (answer.map view).mapError change) :
    (∃ fault fault', answer = .error fault ∧ answer' = .error fault' ∧
      change fault' = change fault) ∨
    ∃ value value', answer = .ok value ∧ answer' = .ok value' ∧ view value' = view value := by
  cases answer with
  | error fault =>
    cases answer' with
    | error fault' => exact .inl ⟨fault, fault', rfl, rfl, Except.error.inj same⟩
    | ok value' => cases same
  | ok value =>
    cases answer' with
    | error fault' => cases same
    | ok value' => exact .inr ⟨value, value', rfl, rfl, Except.ok.inj same⟩

/-- Answers that are the same but for a change of faults are one value, or faults that are changed
into the same one. -/
theorem mapError_cases {ε ε' α : Type} {change : ε → ε'} {answer answer' : Except ε α}
    (same : answer'.mapError change = answer.mapError change) :
    (∃ fault fault', answer = .error fault ∧ answer' = .error fault' ∧
      change fault' = change fault) ∨ ∃ value, answer = .ok value ∧ answer' = .ok value := by
  have views : (answer'.map id).mapError change = (answer.map id).mapError change := by
    rwa [Except.map_id]
  rcases map_mapError_cases views with faults | ⟨value, value', read, read', alike⟩
  · exact .inl faults
  · exact .inr ⟨value, read, read'.trans (congrArg Except.ok alike)⟩

section

variable (short : equation.utf8ByteSize ≤ limits.maxLength)
  (short' : spaced.utf8ByteSize ≤ limits.maxLength)
  (scanned : scan limits.functions equation = tokens.map .ok)
  (scanned' : scan limits.functions spaced = others.map .ok)
  (same : Token.lexemes others = Token.lexemes tokens)

include short short' scanned scanned' same

/-- Equations that are cut into the same words are tokenized alike. -/
theorem tokenize_congr :
    ((tokenize limits spaced).map Token.lexemes).mapError ScanFault.unplaced =
      ((tokenize limits equation).map Token.lexemes).mapError ScanFault.unplaced := by
  rw [tokenize_of_scan short scanned, tokenize_of_scan short' scanned']
  rcases firstClash?_cases same with ⟨fault, fault', clash, clash', alike⟩ | ⟨clash, clash'⟩
  · rw [clash, clash']
    exact congrArg Except.error alike
  · rw [clash, clash']
    exact congrArg Except.ok same

/-- Equations that are cut into the same words are parsed alike. -/
theorem parseEquation_congr :
    (parseEquation limits spaced).mapError Fault.unplaced =
      (parseEquation limits equation).mapError Fault.unplaced := by
  rw [parseEquation, parseEquation, tokenize_of_scan short scanned,
    tokenize_of_scan short' scanned']
  rcases firstClash?_cases same with ⟨fault, fault', clash, clash', alike⟩ | ⟨clash, clash'⟩
  · rw [clash, clash']
    exact congrArg (Except.error ∘ Fault.scan) alike
  · rw [clash, clash']
    dsimp only [Option.elim]
    rcases mapError_cases (parse_congr limits same) with
      ⟨fault, fault', failed, failed', alike⟩ | ⟨tree, read, read'⟩
    · rw [failed, failed']
      exact congrArg (Except.error ∘ Fault.parse) alike
    · rw [read, read']

end

/-- Equations that are parsed alike come to the same. -/
theorem solve_congr
    (same : (parseEquation limits spaced).mapError Fault.unplaced =
      (parseEquation limits equation).mapError Fault.unplaced) :
    (solve limits spaced).mapError Fault.unplaced =
      (solve limits equation).mapError Fault.unplaced := by
  rcases mapError_cases same with ⟨fault, fault', failed, failed', alike⟩ | ⟨tree, read, read'⟩
  · rw [solve, solve, failed, failed']
    exact congrArg Except.error alike
  · rw [solve, solve, read, read']

/-- Space between its tokens changes neither the words of an equation, nor its tree, nor what it
comes to: a value with all its bits, or a fault but for its place. -/
theorem solve_spaced (scanned : scan limits.functions equation = tokens.map .ok)
    (spacing : Spaced tokens 0 equation.toList spaced.toList)
    (short : equation.utf8ByteSize ≤ limits.maxLength)
    (short' : spaced.utf8ByteSize ≤ limits.maxLength) :
    (∃ others, scan limits.functions spaced = others.map .ok ∧
        Token.lexemes others = Token.lexemes tokens ∧
        (parse limits others).mapError ParseFault.unplaced =
          (parse limits tokens).mapError ParseFault.unplaced) ∧
      ((tokenize limits spaced).map Token.lexemes).mapError ScanFault.unplaced =
        ((tokenize limits equation).map Token.lexemes).mapError ScanFault.unplaced ∧
      (parseEquation limits spaced).mapError Fault.unplaced =
        (parseEquation limits equation).mapError Fault.unplaced ∧
      (solve limits spaced).mapError Fault.unplaced =
        (solve limits equation).mapError Fault.unplaced := by
  obtain ⟨others, scanned', same⟩ := exists_scan_spaced scanned spacing
  have parsed := parseEquation_congr short short' scanned scanned' same
  exact ⟨⟨others, scanned', same, parse_congr limits same⟩,
    tokenize_congr short short' scanned scanned' same, parsed, solve_congr parsed⟩

/-- Blanks, a tab and a line feed change nothing about a product with a joined minus sign. -/
theorem solve_spaced_of_product :
    let tokens : List Token := [⟨.number 2, ⟨0, 1⟩⟩, ⟨.symbol .star, ⟨1, 2⟩⟩, ⟨.number (-3), ⟨2, 4⟩⟩]
    scan true "2*-3" = tokens.map .ok ∧ Spaced tokens 0 "2*-3".toList " 2 *\t-3\n".toList ∧
      "2*-3".utf8ByteSize ≤ Limits.maxLength {} ∧ " 2 *\t-3\n".utf8ByteSize ≤ Limits.maxLength {} ∧
      (solve {} " 2 *\t-3\n").mapError Fault.unplaced = (solve {} "2*-3").mapError Fault.unplaced := by
  intro tokens
  have scanned : scan true "2*-3" = tokens.map .ok := by decide +kernel
  have spacing : Spaced tokens 0 "2*-3".toList " 2 *\t-3\n".toList := by
    change Spaced tokens 0 ['2', '*', '-', '3'] [' ', '2', ' ', '*', '\t', '-', '3', '\n']
    apply Spaced.space (by decide) (by decide)
    apply Spaced.keep
    apply Spaced.space (by decide) (by decide)
    apply Spaced.keep
    apply Spaced.space (by decide) (by decide)
    apply Spaced.keep
    apply Spaced.keep
    apply Spaced.space (by decide) (by decide)
    exact Spaced.nil
  have short : "2*-3".utf8ByteSize ≤ Limits.maxLength {} := by decide
  have short' : " 2 *\t-3\n".utf8ByteSize ≤ Limits.maxLength {} := by decide
  obtain ⟨-, -, -, solved⟩ := @solve_spaced {} _ _ tokens scanned spacing short short'
  exact ⟨scanned, spacing, short, short', solved⟩

end Calculator
