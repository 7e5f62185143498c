/-! # The functions that can be called

Names are compared without regard to the case of ASCII letters.
-/

namespace Calculator

/-- A function of one number. -/
inductive Builtin where
  | sin
  | cos
  | tan
  | log
  | sqrt
  | abs
deriving DecidableEq, Repr

namespace Builtin

/-- The function with a lower-case name. -/
def ofLowerName? : String → Option Builtin
  | "sin" => some sin
  | "cos" => some cos
  | "tan" => some tan
  | "log" => some log
  | "sqrt" => some sqrt
  | "abs" => some abs
  | _ => none

/-- The function with a name, in any mixture of cases. -/
def ofName? (name : String) : Option Builtin := ofLowerName? (name.map Char.toLower)

/-- The value of a function; `log` is the natural logarithm. -/
def apply : Builtin → Float → Float
  | sin => Float.sin
  | cos => Float.cos
  | tan => Float.tan
  | log => Float.log
  | sqrt => Float.sqrt
  | abs => Float.abs

end Builtin

end Calculator
