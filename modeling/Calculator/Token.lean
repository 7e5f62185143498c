import Calculator.Number.Style

/-! # Tokens

The words of an equation: numbers, the seven symbols and function names, each with the bytes it
covers. Numbers have one NaN, whose sign bit is clear. So a token cannot hold a NaN with its sign
bit set, which the parser would take for a negative number; no equation has such a token, as no
numeral denotes a NaN.
-/

namespace Calculator

/-- A range of byte offsets in the UTF-8 form of an equation. -/
structure Span where
  start : Nat
  stop : Nat
deriving DecidableEq, Repr

/-- The number of bytes in a span. -/
def Span.length (span : Span) : Nat := span.stop - span.start

/-- The empty span at an offset. -/
def Span.point (offset : Nat) : Span := ⟨offset, offset⟩

/-- The characters that are words by themselves. -/
inductive Symbol where
  | plus
  | minus
  | star
  | slash
  | caret
  | openParen
  | closeParen
deriving DecidableEq, Repr

namespace Symbol

/-- The character of a symbol. -/
def char : Symbol → Char
  | plus => '+'
  | minus => '-'
  | star => '*'
  | slash => '/'
  | caret => '^'
  | openParen => '('
  | closeParen => ')'

/-- The symbol that a character is, if it is one. -/
def ofChar? : Char → Option Symbol
  | '+' => some plus
  | '-' => some minus
  | '*' => some star
  | '/' => some slash
  | '^' => some caret
  | '(' => some openParen
  | ')' => some closeParen
  | _ => none

/-- Whether a symbol can stand between two operands. -/
def isBinary : Symbol → Bool
  | openParen | closeParen => false
  | _ => true

theorem ofChar?_char (symbol : Symbol) : ofChar? symbol.char = some symbol := by
  cases symbol <;> rfl

end Symbol

/-- What a token says, wherever it stands. -/
inductive Lexeme where
  | number (value : Float)
  | symbol (sign : Symbol)
  | function (name : String)
deriving DecidableEq, Repr

namespace Lexeme

/-- The text of a lexeme by itself. -/
def text : Lexeme → String
  | number value => plainText value
  | symbol sign => sign.char.toString
  | function name => name

/-- A lexeme as messages name it. -/
def description : Lexeme → String
  | number value => s!"number {plainText value}"
  | symbol sign => s!"'{sign.char.toString}'"
  | function name => s!"function '{name}'"

/-- Whether an operand can end with this lexeme. -/
def endsOperand : Lexeme → Bool
  | number _ | symbol .closeParen => true
  | _ => false

/-- Whether an operand can start with this lexeme, a minus sign apart. -/
def startsOperand : Lexeme → Bool
  | number _ | function _ | symbol .openParen => true
  | _ => false

end Lexeme

/-- A lexeme and where it stands. -/
structure Token where
  lexeme : Lexeme
  span : Span
deriving DecidableEq, Repr

end Calculator
