import Calculator.Text.Escape
import Calculator.Token

/-! # Expressions

The tree of an expression, how tall it is, and the three texts it has: a formula with every
parenthesis written, the words of its reverse Polish form, and an indented outline.
-/

namespace Calculator

/-- An operator between two operands. -/
inductive BinaryOp where
  | add
  | sub
  | mul
  | div
  | pow
deriving DecidableEq, Repr

namespace BinaryOp

/-- The symbol an operator is written with. -/
def symbol : BinaryOp → Symbol
  | add => .plus
  | sub => .minus
  | mul => .star
  | div => .slash
  | pow => .caret

/-- The operator a symbol stands for between operands; parentheses stand for none. -/
def ofSymbol? : Symbol → Option BinaryOp
  | .plus => some add
  | .minus => some sub
  | .star => some mul
  | .slash => some div
  | .caret => some pow
  | .openParen | .closeParen => none

theorem ofSymbol?_symbol (op : BinaryOp) : ofSymbol? op.symbol = some op := by
  cases op <;> rfl

/-- The character an operator is written with. -/
def char (op : BinaryOp) : Char := op.symbol.char

/-- The name of an operator in outlines. -/
def name : BinaryOp → String
  | add => "Add"
  | sub => "Sub"
  | mul => "Mul"
  | div => "Div"
  | pow => "Pow"

end BinaryOp

/-- An expression tree. -/
inductive Expr where
  | literal (value : Float)
  | binary (op : BinaryOp) (lhs rhs : Expr)
  | negate (operand : Expr)
  | call (function : String) (argument : Expr)
deriving DecidableEq, Repr

namespace Expr

/-- The number of edges on the longest path down to a literal. -/
def height : Expr → Nat
  | literal _ => 0
  | binary _ lhs rhs => max lhs.height rhs.height + 1
  | negate operand => operand.height + 1
  | call _ argument => argument.height + 1

/-- The formula of a tree. Every operation stands in parentheses, and so does a literal with a
sign; negations and calls do not. -/
def formula : Expr → List Char
  | literal value =>
    let digits := NumberStyle.plain.write value
    if Binary64.isNegative value then '(' :: digits ++ [')'] else digits
  | binary op lhs rhs => '(' :: lhs.formula ++ [' ', op.char, ' '] ++ rhs.formula ++ [')']
  | negate operand => '-' :: operand.formula
  | call function argument => function.toList ++ '(' :: argument.formula ++ [')']

/-- The formula of a tree as a text. -/
def text (tree : Expr) : String := String.ofList tree.formula

/-- The words of the reverse Polish form: operands first, `neg` for a negation. -/
def polishWords : Expr → List String
  | literal value => [plainText value]
  | binary op lhs rhs => lhs.polishWords ++ rhs.polishWords ++ [op.char.toString]
  | negate operand => operand.polishWords ++ ["neg"]
  | call function argument => argument.polishWords ++ [function]

/-- The reverse Polish form, its words with single spaces between them. -/
def polish (tree : Expr) : String := " ".intercalate tree.polishWords

/-- A new line at a level of an outline. -/
private def line (level : Nat) : String :=
  "\n" ++ String.ofList (List.replicate (4 * level) ' ')

/-- The outline of a tree that starts at a level: one field a line, four spaces a level. -/
private def outlineAt (level : Nat) : Expr → String
  | literal value =>
    "Literal(" ++ line (level + 1) ++ String.ofList (NumberStyle.outline.write value) ++ "," ++
      line level ++ ")"
  | binary op lhs rhs =>
    "BinaryOp \x7b" ++ line (level + 1) ++ "op: " ++ op.name ++ "," ++
      line (level + 1) ++ "lhs: " ++ outlineAt (level + 1) lhs ++ "," ++
      line (level + 1) ++ "rhs: " ++ outlineAt (level + 1) rhs ++ "," ++
      line level ++ "\x7d"
  | negate operand =>
    "UnaryNegate(" ++ line (level + 1) ++ outlineAt (level + 1) operand ++ "," ++
      line level ++ ")"
  | call function argument =>
    "Call \x7b" ++ line (level + 1) ++ "function: " ++ Text.shown function ++ "," ++
      line (level + 1) ++ "argument: " ++ outlineAt (level + 1) argument ++ "," ++
      line level ++ "\x7d"

/-- The outline of a tree, one field a line. -/
def outline (tree : Expr) : String := outlineAt 0 tree

end Expr

end Calculator
