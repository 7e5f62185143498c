import Calculator.Number.Binary64

/-! # Decimals

Exact decimal numbers, the form in which numbers are read and written. A decimal denotes the
binary64 number nearest to it.
-/

namespace Calculator

/-- The number `coefficient * 10 ^ exponent`. -/
structure Decimal where
  coefficient : Nat
  exponent : Int
deriving DecidableEq, Repr

namespace Decimal

/-- The code of the binary64 number nearest to a decimal. -/
def code (d : Decimal) : Nat :=
  match d.exponent with
  | .ofNat e => Binary64.nearest (d.coefficient * 10 ^ e) 1
  | .negSucc e => Binary64.nearest d.coefficient (10 ^ (e + 1))

/-- The binary64 number nearest to a decimal. -/
def toFloat (d : Decimal) : Float := Binary64.ofCode d.code

/-- The decimal written as digits with the last `places` of them after the point. -/
def ofDigits (digits : List Char) (places : Nat) : Decimal :=
  ⟨Nat.ofDigitChars 10 digits 0, -places⟩

/-- The significant digits of a decimal, without leading zeros. -/
def digits (d : Decimal) : List Char := Nat.toDigits 10 d.coefficient

private def dropZeros (coefficient : Nat) (exponent : Int) : Decimal :=
  if coefficient = 0 then ⟨0, 0⟩
  else if coefficient % 10 = 0 then dropZeros (coefficient / 10) (exponent + 1)
  else ⟨coefficient, exponent⟩
termination_by coefficient

/-- The same number with no zero at the end of its coefficient; zero itself has exponent zero. -/
def trim (d : Decimal) : Decimal := dropZeros d.coefficient d.exponent

/-- The code of a decimal with places after its point. -/
theorem code_places (coefficient places : Nat) :
    code ⟨coefficient, -places⟩ = Binary64.nearest coefficient (10 ^ places) := by
  cases places with
  | zero =>
    change Binary64.nearest (coefficient * 1) 1 = Binary64.nearest coefficient 1
    rw [Nat.mul_one]
  | succ places => rfl

private theorem code_shift (coefficient : Nat) (exponent : Int) :
    code ⟨coefficient * 10, exponent⟩ = code ⟨coefficient, exponent + 1⟩ := by
  match exponent with
  | .ofNat e =>
    change Binary64.nearest (coefficient * 10 * 10 ^ e) 1 =
      Binary64.nearest (coefficient * 10 ^ (e + 1)) 1
    rw [Nat.pow_succ', Nat.mul_assoc]
  | .negSucc 0 =>
    change Binary64.nearest (coefficient * 10) (1 * 10) = Binary64.nearest (coefficient * 1) 1
    rw [Binary64.nearest_scale _ _ (by decide), Nat.mul_one]
  | .negSucc (e + 1) =>
    change Binary64.nearest (coefficient * 10) (10 ^ (e + 1) * 10) =
      Binary64.nearest coefficient (10 ^ (e + 1))
    exact Binary64.nearest_scale _ _ (by decide)

private theorem code_zero (exponent : Int) : code ⟨0, exponent⟩ = 0 := by
  unfold code
  split
  · rw [Nat.zero_mul]
    exact Binary64.nearest_zero (by decide)
  · exact Binary64.nearest_zero (Nat.pow_pos (by decide))

private theorem code_dropZeros (coefficient : Nat) (exponent : Int) :
    (dropZeros coefficient exponent).code = code ⟨coefficient, exponent⟩ := by
  fun_induction dropZeros coefficient exponent with
  | case1 exponent => rw [code_zero, code_zero]
  | case2 coefficient exponent _ divides ih =>
    rw [ih, ← code_shift, Nat.div_mul_cancel (Nat.dvd_of_mod_eq_zero divides)]
  | case3 => rfl

/-- Dropping zeros does not change the number. -/
theorem code_trim (d : Decimal) : d.trim.code = d.code := code_dropZeros ..

/-- Zero has one form without zeros to drop. -/
theorem exponent_trim {d : Decimal} (zero : d.trim.coefficient = 0) : d.trim.exponent = 0 := by
  obtain ⟨coefficient, exponent⟩ := d
  unfold trim at zero ⊢
  fun_induction dropZeros coefficient exponent with
  | case1 => rfl
  | case2 _ _ _ _ ih => exact ih zero
  | case3 _ _ some => exact absurd zero some

end Decimal

end Calculator
