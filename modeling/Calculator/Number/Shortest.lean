import Calculator.Number.Decimal

/-! # The shortest decimal that reads back

A binary64 number is written with the fewest digits from which it can be read back, and among
decimals of that length with the nearest. The search compares exact integers: every finite number
is a whole multiple of `10 ^ (-1074)`, and a decimal of `count` digits near it is that multiple
cut after `count` digits, or the next one up. Reading back is asked of `Decimal.code` itself, so
what is found always denotes the number it was found for.
-/

namespace Calculator.Decimal

/-- Which of two equally near decimals is taken. -/
inductive Tie where
  | up
  | toEven
deriving DecidableEq, Repr

/-- The value of a finite code as a whole multiple of `10 ^ (-1074)`. -/
def expansion (code : Nat) : Nat := Binary64.units code * 5 ^ Binary64.unitExponent

/-- Whether the upper of two neighbours is the one to take for a value `below` over the lower one
and `above` under the upper one. -/
def Tie.takesUpper (tie : Tie) (lower below above : Nat) : Bool :=
  match compare below above with
  | .lt => false
  | .gt => true
  | .eq => match tie with
    | .up => true
    | .toEven => lower % 2 = 1

/-- The nearest decimal that reads back as `code` among those whose last digit counts
`10 ^ (dropped - 1074)`. -/
def atGrid? (tie : Tie) (code dropped : Nat) : Option Decimal :=
  let step := 10 ^ dropped
  let lower := expansion code / step
  let below := expansion code % step
  let decimal (coefficient : Nat) : Decimal := ⟨coefficient, (dropped : Int) - Binary64.unitExponent⟩
  match (decimal lower).code == code, (decimal (lower + 1)).code == code with
  | true, true =>
    some (decimal (if tie.takesUpper lower below (step - below) then lower + 1 else lower))
  | true, false => some (decimal lower)
  | false, true => some (decimal (lower + 1))
  | false, false => none

/-- The shortest decimal that reads back as a finite code.

Seventeen digits tell any two binary64 numbers apart; the exact expansion stands behind them, so
that the search plainly has an answer. -/
def shortest (tie : Tie) (code : Nat) : Decimal :=
  let length := (Nat.toDigits 10 (expansion code)).length
  let found? := (List.range 17).findSome? fun n => atGrid? tie code (length - (n + 1))
  (found?.getD ⟨expansion code, -Binary64.unitExponent⟩).trim

theorem code_of_atGrid? {tie : Tie} {code dropped : Nat} {decimal : Decimal}
    (found : atGrid? tie code dropped = some decimal) : decimal.code = code := by
  unfold atGrid? at found
  dsimp only at found
  split at found
  case h_1 lower upper =>
    rw [← Option.some.inj found]
    split
    · exact eq_of_beq upper
    · exact eq_of_beq lower
  case h_2 lower _ =>
    rw [← Option.some.inj found]
    exact eq_of_beq lower
  case h_3 _ upper =>
    rw [← Option.some.inj found]
    exact eq_of_beq upper
  case h_4 => cases found

private theorem ten_pow (n : Nat) : 10 ^ n = 2 ^ n * 5 ^ n := Nat.mul_pow 2 5 n

/-- The exact expansion of a finite number reads back. -/
theorem code_expansion {code : Nat} (finite : code < Binary64.infinity) :
    Decimal.code ⟨expansion code, -Binary64.unitExponent⟩ = code := by
  rw [code_places, ten_pow, ← Binary64.unitsPerOne, expansion,
    Binary64.nearest_scale _ _ (Nat.pow_pos (by decide)), Binary64.nearest_units finite]

/-- What is written can be read back. -/
theorem code_shortest (tie : Tie) {code : Nat} (finite : code < Binary64.infinity) :
    (shortest tie code).code = code := by
  unfold shortest
  dsimp only
  rw [code_trim]
  cases search : (List.range 17).findSome? _ with
  | none => exact code_expansion finite
  | some decimal =>
    obtain ⟨_, _, found⟩ := List.exists_of_findSome?_eq_some search
    exact code_of_atGrid? found

end Calculator.Decimal
