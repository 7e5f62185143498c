import Calculator.Proofs.Parse.Relabel
import Calculator.Proofs.Parse.Unambiguous

/-! # Where tokens stand

Taking the places off tokens is a change that keeps their letters. So tokens without their places
are read into the same tree, or the same fault without its place.
-/

namespace Calculator

/-- A token without the place where it stands. -/
def Token.unplaced (token : Token) : Token := ⟨token.lexeme, .point 0⟩

/-- A fault in the order of the words, without its place. -/
def ParseFault.unplaced : ParseFault → ParseFault
  | unexpectedToken expected found _ => unexpectedToken expected found (.point 0)
  | unexpectedEnd expected _ => unexpectedEnd expected (.point 0)
  | unclosedParenthesis _ => unclosedParenthesis (.point 0)
  | unmatchedParenthesis _ => unmatchedParenthesis (.point 0)
  | missingParenthesis function _ => missingParenthesis function (.point 0)
  | trailingInput found _ => trailingInput found (.point 0)
  | tooComplex maxDepth _ => tooComplex maxDepth (.point 0)
  | tooTall maxHeight _ => tooTall maxHeight (.point 0)

/-- A fault in the words, without its place. -/
def ScanFault.unplaced : ScanFault → ScanFault
  | inputTooLong length limit => inputTooLong length limit
  | unexpectedCharacter character _ => unexpectedCharacter character (.point 0)
  | malformedNumber literal cause _ => malformedNumber literal cause (.point 0)
  | missingOperator before after _ => missingOperator before after (.point 0)
  | consecutiveOperators first second _ => consecutiveOperators first second (.point 0)

/-- Why an equation has no answer, without the place where that shows. -/
def Fault.unplaced : Fault → Fault
  | scan fault => scan fault.unplaced
  | parse fault => parse fault.unplaced
  | eval fault => eval fault

namespace Relabeling

/-- The change that takes all places away. -/
def unplace : Relabeling := ⟨id, fun _ => 0, rfl⟩

theorem map_letter_unplace (name : String) : name.map unplace.letter = name :=
  String.map_id

end Relabeling

open Relabeling

theorem Lexeme.relabel_unplace (lexeme : Lexeme) : lexeme.relabel unplace = lexeme := by
  cases lexeme with
  | function name => exact congrArg function (map_letter_unplace name)
  | number | symbol => rfl

theorem Token.relabel_unplace : relabel unplace = unplaced := by
  funext token
  exact congrArg (Token.mk · _) token.lexeme.relabel_unplace

theorem Expr.relabel_unplace (tree : Expr) : tree.relabel unplace = tree := by
  induction tree with
  | literal => rfl
  | binary op lhs rhs ihLhs ihRhs => rw [relabel, ihLhs, ihRhs]
  | negate operand ih => rw [relabel, ih]
  | call function argument ih => rw [relabel, ih, map_letter_unplace]

theorem ParseFault.relabel_unplace : relabel unplace = unplaced := by
  funext fault
  cases fault with
  | unexpectedToken expected found => exact congrArg (unexpectedToken _ · _) found.relabel_unplace
  | missingParenthesis name => exact congrArg (missingParenthesis · _) (map_letter_unplace name)
  | trailingInput found => exact congrArg (trailingInput · _) found.relabel_unplace
  | _ => rfl

theorem ScanFault.relabel_unplace : relabel unplace = unplaced := by
  funext fault
  cases fault with
  | missingOperator before after => exact congrArg (missingOperator _ · _) after.relabel_unplace
  | _ => rfl

variable {tokens others : List Token}

theorem Token.map_unplaced (tokens : List Token) :
    tokens.map unplaced = spelling (lexemes tokens) := by
  rw [spelling, lexemes, List.map_map]
  rfl

/-- Without their places, tokens are parsed into the same tree, or the same fault without its
place. -/
theorem parse_unplaced (limits : Limits) (tokens : List Token) :
    parse limits (tokens.map Token.unplaced) =
      (parse limits tokens).mapError ParseFault.unplaced := by
  rw [← Token.relabel_unplace, ← ParseFault.relabel_unplace, parse_relabel]
  cases parse limits tokens with
  | error => rfl
  | ok tree => exact congrArg Except.ok tree.relabel_unplace

/-- Tokens that say the same are parsed alike, wherever they stand. -/
theorem parse_congr (limits : Limits) (same : Token.lexemes others = Token.lexemes tokens) :
    (parse limits others).mapError ParseFault.unplaced =
      (parse limits tokens).mapError ParseFault.unplaced := by
  rw [← parse_unplaced, ← parse_unplaced, Token.map_unplaced, Token.map_unplaced, same]

namespace Token

theorem firstClash?_unplaced (tokens : List Token) :
    firstClash? (tokens.map unplaced) = (firstClash? tokens).map ScanFault.unplaced := by
  rw [← relabel_unplace, ← ScanFault.relabel_unplace, firstClash?_relabel]

/-- Tokens that say the same have neighbours that exclude each other alike. -/
theorem firstClash?_congr (same : lexemes others = lexemes tokens) :
    (firstClash? others).map ScanFault.unplaced = (firstClash? tokens).map ScanFault.unplaced := by
  rw [← firstClash?_unplaced, ← firstClash?_unplaced, map_unplaced, map_unplaced, same]

end Token

end Calculator
