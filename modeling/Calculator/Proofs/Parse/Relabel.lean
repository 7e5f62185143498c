import Calculator.Proofs.Parse.Run
import Calculator.Token.Scan

/-! # How words are written and where they stand

Neither the parser nor the check of neighbours looks at the letters of a name or at where a token
stands. Both are only copied, into trees and faults, so tokens with other letters at other places
are read in the same steps, into the tree or the fault that has the other letters and places.
-/

namespace Calculator

/-- A change of the letters of names and of the places of tokens. The start of an equation stays. -/
structure Relabeling where
  letter : Char → Char
  offset : Nat → Nat
  offset_zero : offset 0 = 0

namespace Relabeling

/-- A place after a change. -/
def place (change : Relabeling) (span : Span) : Span :=
  ⟨change.offset span.start, change.offset span.stop⟩

theorem place_point (change : Relabeling) (offset : Nat) :
    change.place (.point offset) = .point (change.offset offset) := rfl

end Relabeling

variable {change : Relabeling}

/-- A lexeme after a change of letters. -/
def Lexeme.relabel (change : Relabeling) : Lexeme → Lexeme
  | number value => number value
  | symbol sign => symbol sign
  | function name => function (name.map change.letter)

/-- A token after a change. -/
def Token.relabel (change : Relabeling) (token : Token) : Token :=
  ⟨token.lexeme.relabel change, change.place token.span⟩

/-- A tree after a change of letters. -/
def Expr.relabel (change : Relabeling) : Expr → Expr
  | literal value => literal value
  | binary op lhs rhs => binary op (lhs.relabel change) (rhs.relabel change)
  | negate operand => negate (operand.relabel change)
  | call function argument => call (function.map change.letter) (argument.relabel change)

/-- A fault in the order of the words after a change. -/
def ParseFault.relabel (change : Relabeling) : ParseFault → ParseFault
  | unexpectedToken expected found span =>
    unexpectedToken expected (found.relabel change) (change.place span)
  | unexpectedEnd expected span => unexpectedEnd expected (change.place span)
  | unclosedParenthesis span => unclosedParenthesis (change.place span)
  | unmatchedParenthesis span => unmatchedParenthesis (change.place span)
  | missingParenthesis function span =>
    missingParenthesis (function.map change.letter) (change.place span)
  | trailingInput found span => trailingInput (found.relabel change) (change.place span)
  | tooComplex maxDepth span => tooComplex maxDepth (change.place span)
  | tooTall maxHeight span => tooTall maxHeight (change.place span)

/-- A fault in the words after a change. The first of two words without an operator between them
is never a name. -/
def ScanFault.relabel (change : Relabeling) : ScanFault → ScanFault
  | inputTooLong length limit => inputTooLong length limit
  | unexpectedCharacter character span =>
    unexpectedCharacter (change.letter character) (change.place span)
  | malformedNumber literal cause span => malformedNumber literal cause (change.place span)
  | missingOperator before after span =>
    missingOperator before (after.relabel change) (change.place span)
  | consecutiveOperators first second span =>
    consecutiveOperators first second (change.place span)

theorem Expr.height_relabel (tree : Expr) : (tree.relabel change).height = tree.height := by
  induction tree with
  | literal => rfl
  | binary op lhs rhs ihLhs ihRhs => simp only [relabel, height, ihLhs, ihRhs]
  | negate operand ih | call function operand ih => simp only [relabel, height, ih]

namespace Lexeme

theorem operator?_relabel (lexeme : Lexeme) :
    (lexeme.relabel change).operator? = lexeme.operator? := by
  cases lexeme <;> rfl

/-- A change of letters makes no symbol, and takes none away. -/
theorem relabel_eq_symbol {lexeme : Lexeme} {sign : Symbol} :
    lexeme.relabel change = symbol sign ↔ lexeme = symbol sign := by
  cases lexeme <;> simp [relabel]

theorem relabel_of_endsOperand {lexeme : Lexeme} (ends : lexeme.endsOperand = true) :
    lexeme.relabel change = lexeme := by
  cases lexeme with
  | function => cases ends
  | number | symbol => rfl

theorem startsOperand_relabel (lexeme : Lexeme) :
    (lexeme.relabel change).startsOperand = lexeme.startsOperand := by
  cases lexeme <;> rfl

theorem endsOperand_relabel (lexeme : Lexeme) :
    (lexeme.relabel change).endsOperand = lexeme.endsOperand := by
  cases lexeme <;> rfl

end Lexeme

namespace Parse

/-- What is read of some tokens after a change. -/
def Reading.relabel (change : Relabeling) : Reading → Reading
  | done tree last rest =>
    done (tree.relabel change) (change.place last) (rest.map (Token.relabel change))
  | failed fault depth rest =>
    failed (fault.relabel change) depth (rest.map (Token.relabel change))

/-- A task after a change. -/
def Task.relabel (change : Relabeling) : Task → Task
  | operand => operand
  | expression power => expression power
  | nested opening power => nested (change.place opening) power
  | extend power lhs last => extend power (lhs.relabel change) (change.place last)

variable {limits : Limits} {finish : Span} {task : Task} {depth : Nat} {tokens : List Token}
  {reading : Reading}

theorem Task.relabel_right (op : BinaryOp) (place : Span) :
    (right op place).relabel change = right op (change.place place) := by
  unfold right
  split <;> rfl

theorem Reading.relabel_negate (reading : Reading) :
    (reading.map .negate).relabel change = (reading.relabel change).map .negate := by
  cases reading <;> rfl

theorem Reading.relabel_call (reading : Reading) (name : String) :
    (reading.map (.call name)).relabel change =
      (reading.relabel change).map (.call (name.map change.letter)) := by
  cases reading <;> rfl

theorem Reading.relabel_close (reading : Reading) (opening : Span) (depth : Nat) :
    (reading.close opening depth).relabel change =
      (reading.relabel change).close (change.place opening) depth := by
  rcases reading with ⟨tree, last, _ | ⟨token, rest⟩⟩ | ⟨fault, level, rest⟩
  · rfl
  · by_cases closes : token.lexeme = .symbol .closeParen
    · have closes' : (token.relabel change).lexeme = .symbol .closeParen :=
        Lexeme.relabel_eq_symbol.mpr closes
      simp only [close, relabel, List.map_cons, closes, closes', ↓reduceIte]
      rfl
    · have other : (token.relabel change).lexeme ≠ .symbol .closeParen :=
        mt Lexeme.relabel_eq_symbol.mp closes
      rw [close_other closes]
      exact (close_other other).symm
  · rfl

theorem Stops.relabel {power : Nat} (stops : Stops power tokens) :
    Stops power (tokens.map (Token.relabel change)) := by
  cases tokens with
  | nil => trivial
  | cons token rest =>
    intro op operator
    exact stops op (token.lexeme.operator?_relabel.symm.trans operator)

theorem signsPower_relabel (value : Float) (rest : List Token) :
    signsPower value (rest.map (Token.relabel change)) = signsPower value rest := by
  cases rest with
  | nil => rfl
  | cons token rest =>
    simp only [signsPower, List.map_cons, startsWithCaret, Token.relabel, Lexeme.relabel_eq_symbol]

/-- Tokens with other letters at other places are read in the same steps. -/
theorem Run.relabel (change : Relabeling) (run : Run limits finish task depth tokens reading) :
    Run limits (change.place finish) (task.relabel change) depth
      (tokens.map (Token.relabel change)) (reading.relabel change) := by
  induction run with
  | operandMissing => exact .operandMissing
  | number unsigned => exact .number ((signsPower_relabel ..).trans unsigned)
  | signedPowerDeep signed deep =>
    exact .signedPowerDeep ((signsPower_relabel ..).trans signed) deep
  | signedPower signed room _ ih =>
    rw [Reading.relabel_negate]
    exact .signedPower ((signsPower_relabel ..).trans signed) room ih
  | negate _ ih =>
    rw [Reading.relabel_negate]
    exact .negate ih
  | group _ ih =>
    rw [Reading.relabel_close]
    exact .group ih
  | stray notMinus notOpen => exact .stray notMinus notOpen
  | call _ ih =>
    rw [Reading.relabel_call, Reading.relabel_close]
    exact .call ih
  | callEnds => exact .callEnds
  | callUnopened notOpen => exact .callUnopened (mt Lexeme.relabel_eq_symbol.mp notOpen)
  | operandFailed _ ih => exact .operandFailed ih
  | operandTall _ tall ih =>
    rw [← Expr.height_relabel] at tall
    exact .operandTall ih tall
  | expression _ low _ ihFirst ihMore =>
    rw [← Expr.height_relabel] at low
    exact .expression ihFirst low ihMore
  | nestedDeep deep => exact .nestedDeep deep
  | nested room _ ih => exact .nested room ih
  | stop stops => exact .stop stops.relabel
  | rightFailed operator binds _ ih =>
    rw [Task.relabel_right] at ih
    exact .rightFailed ((Lexeme.operator?_relabel _).trans operator) binds ih
  | rightTall operator binds _ tall ih =>
    rw [Task.relabel_right] at ih
    rw [← Expr.height_relabel] at tall
    exact .rightTall ((Lexeme.operator?_relabel _).trans operator) binds ih tall
  | extend operator binds _ low _ ihRight ihMore =>
    rw [Task.relabel_right] at ihRight
    rw [← Expr.height_relabel] at low
    exact .extend ((Lexeme.operator?_relabel _).trans operator) binds ihRight low ihMore

theorem surplus_relabel (token : Token) :
    surplus (token.relabel change) = (surplus token).relabel change := by
  rcases surplus_cases token with ⟨closes, same⟩ | ⟨other, same⟩
  · rw [same]
    exact if_pos (Lexeme.relabel_eq_symbol.mpr closes)
  · rw [same]
    exact if_neg (mt Lexeme.relabel_eq_symbol.mp other)

theorem Reading.verdict_relabel (reading : Reading) :
    (reading.relabel change).verdict =
      (reading.verdict.map (Expr.relabel change)).mapError (ParseFault.relabel change) := by
  rcases reading with ⟨tree, last, _ | ⟨token, rest⟩⟩ | ⟨fault, level, rest⟩
  · rfl
  · exact congrArg Except.error (surplus_relabel token)
  · rfl

theorem finish_relabel (tokens : List Token) :
    Parse.finish (tokens.map (Token.relabel change)) = change.place (Parse.finish tokens) := by
  rw [Parse.finish, Parse.finish, List.getLast?_map, change.place_point]
  cases tokens.getLast? with
  | none => exact congrArg Span.point change.offset_zero.symm
  | some token => rfl

end Parse

open Parse

/-- Tokens with other letters at other places are parsed into the tree, or the fault, with the
other letters and places. -/
theorem parse_relabel (change : Relabeling) (limits : Limits) (tokens : List Token) :
    parse limits (tokens.map (Token.relabel change)) =
      ((parse limits tokens).map (Expr.relabel change)).mapError (ParseFault.relabel change) := by
  obtain ⟨reading, run, verdict⟩ := parse_eq_verdict limits tokens
  have run' := run.relabel change
  rw [← finish_relabel tokens] at run'
  rw [verdict, ← Reading.verdict_relabel]
  exact parse_eq_of_run run'

namespace Token

theorem clash?_relabel (before after : Token) :
    clash? (before.relabel change) (after.relabel change) =
      (clash? before after).map (ScanFault.relabel change) := by
  obtain ⟨first, place⟩ := before
  obtain ⟨second, place'⟩ := after
  unfold clash?
  simp only [relabel, Lexeme.endsOperand_relabel, Lexeme.startsOperand_relabel]
  split
  case isTrue beside =>
    rw [Bool.and_eq_true] at beside
    rw [Lexeme.relabel_of_endsOperand beside.1]
    rfl
  case isFalse =>
    cases first with
    | number | function => rfl
    | symbol sign =>
      cases second with
      | number | function => rfl
      | symbol sign' =>
        dsimp only [Lexeme.relabel]
        split <;> rfl

/-- Neighbours exclude each other alike, whatever their letters are and wherever they stand. -/
theorem firstClash?_relabel (tokens : List Token) :
    firstClash? (tokens.map (relabel change)) =
      (firstClash? tokens).map (ScanFault.relabel change) := by
  induction tokens with
  | nil => rfl
  | cons before rest ih =>
    cases rest with
    | nil => rfl
    | cons after rest =>
      calc firstClash? ((before :: after :: rest).map (relabel change))
        _ = (clash? (before.relabel change) (after.relabel change)).or
            (firstClash? ((after :: rest).map (relabel change))) := rfl
        _ = ((clash? before after).or (firstClash? (after :: rest))).map
            (ScanFault.relabel change) := by
          rw [clash?_relabel, ih, Option.map_or]

end Token

end Calculator
