import Calculator.Number.Shortest

/-! # How numbers are written

A style settles everything about the text of a number that its shortest digits leave open. The
calculator writes in three: plain text in results, messages and formulas, outlines of expression
trees, and JSON.
-/

namespace Calculator

namespace Decimal

/-- The decimal written out in full; with `pointed`, an integer gets a fraction of one zero. -/
def positional (pointed : Bool) (d : Decimal) : List Char :=
  let digits := d.digits
  match d.exponent with
  | .ofNat e => digits ++ List.replicate e '0' ++ (if pointed then ['.', '0'] else [])
  | .negSucc e =>
    let places := e + 1
    if places < digits.length then
      digits.take (digits.length - places) ++ '.' :: digits.drop (digits.length - places)
    else '0' :: '.' :: List.replicate (places - digits.length) '0' ++ digits

/-- The power of ten that the first digit of a decimal counts. -/
def leadingExponent (d : Decimal) : Int := d.exponent + d.digits.length - 1

/-- The decimal with its point after the first digit and an exponent; with `signed`, an exponent
that is not negative carries a plus sign. -/
def scientific (signed : Bool) (d : Decimal) : List Char :=
  let mantissa := match d.digits with
    | first :: second :: rest => first :: '.' :: second :: rest
    | short => short
  let exponent := d.leadingExponent
  let sign := if exponent < 0 then ['-'] else if signed then ['+'] else []
  mantissa ++ 'e' :: sign ++ Nat.toDigits 10 exponent.natAbs

end Decimal

/-- The decisions behind the text of a number. -/
structure NumberStyle where
  /-- Whether an integer is written with a fraction of one zero. -/
  pointed : Bool
  /-- The leading exponents, first and last, that are written without an exponent; all if absent. -/
  positionalRange : Option (Int × Int)
  /-- Whether an exponent that is not negative carries a plus sign. -/
  signedExponent : Bool
  /-- The choice between two equally near decimals. -/
  tie : Decimal.Tie
deriving DecidableEq, Repr

namespace NumberStyle

/-- Results, messages and formulas never show an exponent. -/
def plain : NumberStyle := ⟨false, none, false, .up⟩

/-- Outlines mark every number as one with a fraction and turn to exponents beyond sixteen digits
and below `0.0001`. -/
def outline : NumberStyle := ⟨true, some (-4, 15), false, .up⟩

/-- JSON texts keep one more leading zero than outlines and sign their exponents. -/
def json : NumberStyle := ⟨true, some (-5, 15), true, .toEven⟩

/-- Whether a decimal is written without an exponent. -/
def isPositional (style : NumberStyle) (d : Decimal) : Bool :=
  match style.positionalRange with
  | none => true
  | some (first, last) =>
    d.coefficient = 0 || (first ≤ d.leadingExponent && d.leadingExponent ≤ last)

/-- The text of a finite code. -/
def magnitude (style : NumberStyle) (code : Nat) : List Char :=
  let decimal := Decimal.shortest style.tie code
  if style.isPositional decimal then decimal.positional style.pointed
  else decimal.scientific style.signedExponent

/-- The text of a number; a sign bit shows also on zero and infinity, never on a NaN. -/
def write (style : NumberStyle) (x : Float) : List Char :=
  if x.isNaN then ['N', 'a', 'N']
  else
    let unsigned :=
      if x.isFinite then style.magnitude (Binary64.code x) else ['i', 'n', 'f']
    if Binary64.isNegative x then '-' :: unsigned else unsigned

end NumberStyle

/-- A number as results, messages and formulas show it. -/
def plainText (x : Float) : String := String.ofList (NumberStyle.plain.write x)

end Calculator
