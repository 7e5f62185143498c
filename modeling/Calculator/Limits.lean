/-! # Limits

What an equation may ask for: how long it is, how deeply it nests, how tall its tree grows, and
whether it calls functions.
-/

namespace Calculator

/-- The bounds under which an equation is solved. -/
structure Limits where
  /-- The deepest nesting of parentheses, negations, calls and exponents. -/
  maxDepth : Nat := 50
  /-- The tallest expression tree, in edges. -/
  maxHeight : Nat := 256
  /-- The longest equation, in bytes. -/
  maxLength : Nat := 200
  /-- Whether functions may be called. -/
  functions : Bool := true
deriving DecidableEq, Repr

namespace Limits

/-- A change to one of the limits. -/
inductive Setting where
  | maxDepth (levels : Nat)
  | maxHeight (edges : Nat)
  | maxLength (bytes : Nat)
  | functions (allowed : Bool)
deriving DecidableEq, Repr

/-- The limits after one change. -/
def set (limits : Limits) : Setting → Limits
  | .maxDepth levels => { limits with maxDepth := levels }
  | .maxHeight edges => { limits with maxHeight := edges }
  | .maxLength bytes => { limits with maxLength := bytes }
  | .functions allowed => { limits with functions := allowed }

end Limits

end Calculator
