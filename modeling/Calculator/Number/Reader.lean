import Calculator.Number.Decimal

/-! # Numbers read from texts

A text says a binary64 number if it is a decimal, with or without a point and an exponent, or the
name of infinity or of no number in letters of any case, and at most one sign before it. The whole
text is read: there is no number in a text that goes on behind one.
-/

namespace Calculator

namespace Decimal

/-- What digits say, if they are digits and not none. -/
def digits? (text : List Char) : Option Nat :=
  if text.isEmpty || text.any (!·.isDigit) then none else some (Nat.ofDigitChars 10 text 0)

/-- The power of ten that stands behind the digits of a decimal, none meaning zero. -/
def exponent? : List Char → Option Int
  | [] => some 0
  | mark :: power =>
    if mark = 'e' ∨ mark = 'E' then
      match power with
      | '-' :: power => (digits? power).map fun power => -(power : Int)
      | '+' :: power => (digits? power).map Int.ofNat
      | power => (digits? power).map Int.ofNat
    else none

/-- The decimal that a text is, without a sign: digits before a point, behind it, or both. -/
def ofText? (text : List Char) : Option Decimal :=
  let whole := text.takeWhile Char.isDigit
  let (fraction, behind) :=
    match text.dropWhile Char.isDigit with
    | '.' :: rest => (rest.takeWhile Char.isDigit, rest.dropWhile Char.isDigit)
    | behind => ([], behind)
  if whole.isEmpty && fraction.isEmpty then none
  else (exponent? behind).map fun power =>
    let decimal := ofDigits (whole ++ fraction) fraction.length
    ⟨decimal.coefficient, decimal.exponent + power⟩

end Decimal

namespace Binary64

/-- The number that a text without a sign says. -/
def magnitudeOfText? (text : List Char) : Option Float :=
  let name := String.ofList (text.map Char.toLower)
  if name = "inf" ∨ name = "infinity" then some (ofCode infinity)
  else if name = "nan" then some (ofCode (infinity + 1))
  else (Decimal.ofText? text).map Decimal.toFloat

/-- The number that a text says, if it says one. -/
def ofText? : List Char → Option Float
  | '-' :: text => (magnitudeOfText? text).map (- ·)
  | '+' :: text => magnitudeOfText? text
  | text => magnitudeOfText? text

end Binary64

end Calculator
