import Calculator.Token.Numeral
import Calculator.Token

/-! # Faults

Everything that can keep an equation from having an answer, as causes. How a cause is worded, coded
and pointed at is settled here once, and all front ends report it alike.
-/

namespace Calculator

/-- A fault in the words of an equation. -/
inductive ScanFault where
  | inputTooLong (length limit : Nat)
  | unexpectedCharacter (character : Char) (span : Span)
  | malformedNumber (literal : String) (cause : NumeralFault) (span : Span)
  | missingOperator (before after : Lexeme) (span : Span)
  | consecutiveOperators (first second : Symbol) (span : Span)
deriving DecidableEq, Repr

/-- What would have continued an expression. -/
inductive Expectation where
  | operand
  | closeParen
deriving DecidableEq, Repr

/-- A fault in the order of the words. -/
inductive ParseFault where
  | unexpectedToken (expected : Expectation) (found : Lexeme) (span : Span)
  | unexpectedEnd (expected : Expectation) (span : Span)
  | unclosedParenthesis (span : Span)
  | unmatchedParenthesis (span : Span)
  | missingParenthesis (function : String) (span : Span)
  | trailingInput (found : Lexeme) (span : Span)
  | tooComplex (maxDepth : Nat) (span : Span)
  | tooTall (maxHeight : Nat) (span : Span)
deriving DecidableEq, Repr

/-- A fault in the value of an expression. -/
inductive EvalFault where
  | divisionByZero
  | nonFinite (value : Float)
  | unknownFunction (name : String)
  | tooDeep (maxHeight : Nat)
deriving DecidableEq, Repr

/-- Why an equation has no answer. -/
inductive Fault where
  | scan (fault : ScanFault)
  | parse (fault : ParseFault)
  | eval (fault : EvalFault)
deriving DecidableEq, Repr

/-- A remark on a part of the equation. -/
structure Label where
  text : String
  span : Span
deriving DecidableEq, Repr

namespace ScanFault

/-- The sentence that reports a fault. -/
def message : ScanFault → String
  | inputTooLong length limit =>
    s!"equation is too long ({length} bytes, at most {limit} allowed)"
  | unexpectedCharacter character span =>
    s!"unexpected character '{character.toString}' at position {span.start}"
  | malformedNumber literal _ span => s!"malformed number '{literal}' at position {span.start}"
  | missingOperator before after span =>
    s!"missing operator between '{before.text}' and '{after.text}' at position {span.start}"
  | consecutiveOperators first second span =>
    s!"consecutive operators '{first.char.toString}{second.char.toString}' at position {span.start}"

/-- The name under which a fault can be looked up. -/
def code : ScanFault → String
  | inputTooLong .. => "input_too_long"
  | unexpectedCharacter .. => "unexpected_character"
  | malformedNumber .. => "malformed_number"
  | missingOperator .. => "missing_operator"
  | consecutiveOperators .. => "consecutive_operators"

/-- The part of the equation that a fault points at. -/
def label? : ScanFault → Option Label
  | inputTooLong .. => none
  | unexpectedCharacter _ span => some ⟨"unexpected character", span⟩
  | malformedNumber _ cause span => some ⟨cause.reason, span⟩
  | missingOperator _ _ span => some ⟨"expected an operator here", span⟩
  | consecutiveOperators _ _ span =>
    some ⟨"expected a number, function or '(' between these", span⟩

end ScanFault

/-- What was expected, as messages name it. -/
def Expectation.description : Expectation → String
  | operand => "a number, function or '('"
  | closeParen => "')'"

namespace ParseFault

/-- The sentence that reports a fault. -/
def message : ParseFault → String
  | unexpectedToken expected found span =>
    s!"expected {expected.description}, found {found.description} at position {span.start}"
  | unexpectedEnd expected _ => s!"expected {expected.description}, found end of input"
  | unclosedParenthesis span => s!"unclosed parenthesis opened at position {span.start}"
  | unmatchedParenthesis span => s!"unmatched ')' at position {span.start}"
  | missingParenthesis function span =>
    s!"function '{function}' must be followed by '(' at position {span.start}"
  | trailingInput found span =>
    s!"trailing input: unexpected {found.description} at position {span.start}"
  | tooComplex maxDepth _ => s!"expression too complex: nesting deeper than {maxDepth} levels"
  | tooTall maxHeight _ => s!"expression too long: tree taller than {maxHeight} levels"

/-- The name under which a fault can be looked up. -/
def code : ParseFault → String
  | unexpectedToken .. => "unexpected_token"
  | unexpectedEnd .. => "unexpected_end"
  | unclosedParenthesis .. => "unclosed_parenthesis"
  | unmatchedParenthesis .. => "unmatched_parenthesis"
  | missingParenthesis .. => "missing_parenthesis"
  | trailingInput .. => "trailing_input"
  | tooComplex .. => "too_complex"
  | tooTall .. => "too_tall"

/-- The part of the equation that a fault lies in. -/
def span : ParseFault → Span
  | unexpectedToken _ _ span | unexpectedEnd _ span | unclosedParenthesis span
  | unmatchedParenthesis span | missingParenthesis _ span | trailingInput _ span
  | tooComplex _ span | tooTall _ span => span

/-- What is wrong with that part. -/
def remark : ParseFault → String
  | unexpectedToken .. => "unexpected token"
  | unexpectedEnd .. => "input ends here"
  | unclosedParenthesis .. => "this '(' is never closed"
  | unmatchedParenthesis .. => "no matching '('"
  | missingParenthesis .. => "expected '(' after the function name"
  | trailingInput .. => "expression already ended"
  | tooComplex .. | tooTall .. => "limit exceeded here"

end ParseFault

namespace EvalFault

/-- The sentence that reports a fault. -/
def message : EvalFault → String
  | divisionByZero => "division by zero"
  | nonFinite value => s!"result is not a finite number ({plainText value})"
  | unknownFunction name => s!"unknown function '{name}'"
  | tooDeep maxHeight => s!"expression tree nested deeper than {maxHeight} levels"

/-- The name under which a fault can be looked up. -/
def code : EvalFault → String
  | divisionByZero => "division_by_zero"
  | nonFinite .. => "non_finite"
  | unknownFunction .. => "unknown_function"
  | tooDeep .. => "too_deep"

/-- What could be done about a fault. -/
def help? : EvalFault → Option String
  | unknownFunction .. => some "available functions: sin, cos, tan, log, sqrt, abs"
  | _ => none

end EvalFault

namespace Fault

/-- The sentence that reports a fault. -/
def message : Fault → String
  | scan fault => fault.message
  | parse fault => fault.message
  | eval fault => fault.message

/-- The name under which a fault can be looked up. -/
def code : Fault → String
  | scan fault => fault.code
  | parse fault => fault.code
  | eval fault => fault.code

/-- What could be done about a fault. -/
def help? : Fault → Option String
  | eval fault => fault.help?
  | _ => none

/-- The remarks on the equation that come with a fault. -/
def labels : Fault → List Label
  | scan fault => fault.label?.toList
  | parse fault => [⟨fault.remark, fault.span⟩]
  | eval _ => []

end Fault

end Calculator
