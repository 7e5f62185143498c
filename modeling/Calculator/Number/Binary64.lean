/-! # Binary64 magnitudes

A binary64 number without its sign is a whole number of *units* of `2 ^ (-1074)`: a significand
below `2 ^ 53`, doubled as often as its exponent field says. The number's *code* is its bit
pattern without the sign bit; codes grow with the magnitude, and the code of infinity lies just
above those of the finite numbers. There is one NaN, and its sign bit is clear. Keeping both sides
in `Nat` makes rounding exact: `nearest_units` says that a number is nearest to itself,
`nearest_scale` that only the value of a fraction counts.
-/

-- Powers of natural numbers are those of the core library, whatever else is imported.
attribute [instance (high)] instPowNat
attribute [default_instance 20000] instPowNat

namespace Calculator.Binary64

/-- The unit is two to the power of minus this. -/
def unitExponent : Nat := 1074

/-- How many units make one. -/
def unitsPerOne : Nat := 2 ^ unitExponent

/-- The code of infinity, above every finite code. -/
def infinity : Nat := 2047 * 2 ^ 52

/-- The bits of a number without its sign. -/
def code (x : Float) : Nat := x.toBits.toNat % 2 ^ 63

/-- Whether the sign bit is set, as it also is for `-0.0`. -/
def isNegative (x : Float) : Bool := 2 ^ 63 ≤ x.toBits.toNat

/-- The non-negative number with a given code. -/
def ofCode (code : Nat) : Float := Float.ofBits (UInt64.ofNat code)

/-- The significand of a finite code; the leading bit is implicit from `2 ^ 52` on. -/
def significand (code : Nat) : Nat :=
  if code < 2 ^ 52 then code else 2 ^ 52 + code % 2 ^ 52

/-- How often the significand of a finite code is doubled. -/
def shift (code : Nat) : Nat := code / 2 ^ 52 - 1

/-- The value of a finite code in units. -/
def units (code : Nat) : Nat := significand code * 2 ^ shift code

/-- The integer nearest to a fraction; a half goes to the even neighbour. -/
def roundToEven (numerator denominator : Nat) : Nat :=
  let quotient := numerator / denominator
  let twice := 2 * (numerator % denominator)
  if twice < denominator then quotient
  else if denominator < twice then quotient + 1
  else quotient + quotient % 2

/-- The code of the binary64 number nearest to a fraction, infinity if the fraction is too large.

The significand is rounded at the shift that leaves it 53 bits, or at no shift below that. A
significand rounded up to `2 ^ 53` carries into the exponent field, which is just what the next
code means. -/
def nearest (numerator denominator : Nat) : Nat :=
  let exact := numerator * unitsPerOne
  let shift := Nat.log2 (exact / denominator) - 52
  min infinity (shift * 2 ^ 52 + roundToEven exact (denominator * 2 ^ shift))

theorem unitsPerOne_pos : 0 < unitsPerOne := Nat.two_pow_pos unitExponent

theorem roundToEven_mul (n : Nat) {d : Nat} (pos : 0 < d) : roundToEven (n * d) d = n := by
  unfold roundToEven
  simp [Nat.mul_mod_left, Nat.mul_div_cancel _ pos, pos]

theorem roundToEven_scale (n d : Nat) {k : Nat} (pos : 0 < k) :
    roundToEven (n * k) (d * k) = roundToEven n d := by
  unfold roundToEven
  rw [Nat.mul_div_mul_right _ _ pos, Nat.mul_mod_mul_right, ← Nat.mul_assoc]
  simp only [Nat.mul_lt_mul_right pos]

/-- Rounding depends on the value of a fraction alone. -/
theorem nearest_scale (n d : Nat) {k : Nat} (pos : 0 < k) :
    nearest (n * k) (d * k) = nearest n d := by
  unfold nearest
  have left : n * k * unitsPerOne = n * unitsPerOne * k := Nat.mul_right_comm ..
  have right (s : Nat) : d * k * 2 ^ s = d * 2 ^ s * k := Nat.mul_right_comm ..
  simp only [left, right, Nat.mul_div_mul_right _ _ pos, roundToEven_scale _ _ pos]

theorem nearest_zero {d : Nat} (pos : 0 < d) : nearest 0 d = 0 := by
  simp [nearest, roundToEven, pos]

theorem significand_lt (code : Nat) : significand code < 2 ^ 53 := by
  unfold significand
  split <;> omega

theorem shift_add_significand (code : Nat) : shift code * 2 ^ 52 + significand code = code := by
  unfold shift significand
  split <;> omega

private theorem log2_units (code : Nat) : Nat.log2 (units code) - 52 = shift code := by
  unfold units
  by_cases small : code < 2 ^ 52
  · have zero : shift code = 0 := by unfold shift; omega
    have same : significand code = code := if_pos small
    rw [zero, same, Nat.pow_zero, Nat.mul_one]
    by_cases none : code = 0
    · subst none; rfl
    · have := (Nat.log2_lt none).mpr small
      omega
  · have low : 2 ^ 52 ≤ significand code := by simp only [significand, small, ↓reduceIte]; omega
    have positive : significand code ≠ 0 := by omega
    have power := Nat.two_pow_pos (shift code)
    have : Nat.log2 (significand code * 2 ^ shift code) = 52 + shift code := by
      rw [Nat.log2_eq_iff (Nat.mul_ne_zero positive (by omega))]
      constructor
      · rw [Nat.pow_add]
        exact Nat.mul_le_mul_right _ low
      · rw [show 52 + shift code + 1 = 53 + shift code by omega, Nat.pow_add]
        exact Nat.mul_lt_mul_of_pos_right (significand_lt code) power
    omega

/-- A finite number is the nearest one to itself. -/
theorem nearest_units {code : Nat} (finite : code < infinity) :
    nearest (units code) unitsPerOne = code := by
  unfold nearest
  simp only [Nat.mul_div_cancel _ unitsPerOne_pos, log2_units]
  have exact : units code * unitsPerOne = significand code * (unitsPerOne * 2 ^ shift code) := by
    unfold units
    rw [Nat.mul_assoc, Nat.mul_comm (2 ^ _)]
  rw [exact, roundToEven_mul _ (Nat.mul_pos unitsPerOne_pos (Nat.two_pow_pos _)),
    shift_add_significand]
  exact Nat.min_eq_right (Nat.le_of_lt finite)

end Calculator.Binary64
