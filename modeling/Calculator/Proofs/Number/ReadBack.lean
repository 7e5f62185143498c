import Calculator.Number.Style
import Calculator.Proofs.Number.Sign
import Calculator.Token.Numeral

/-! # Numbers read back as they are written

The plain text of a finite number is a literal that denotes it: digits, or digits around a point,
whose decimal is the shortest one found for the number. Reading such a text ends where it ends,
unless a digit or a point follows.
-/

namespace Calculator

/-- What all satisfies a test is cut off before anything that does not start so. -/
theorem span_append {test : Char → Bool} {before after : List Char}
    (all : ∀ c ∈ before, test c = true) (ends : after.head?.any test = false) :
    (before ++ after).takeWhile test = before ∧ (before ++ after).dropWhile test = after := by
  rw [List.takeWhile_append_of_pos all, List.dropWhile_append_of_pos all]
  cases after with
  | nil => exact ⟨List.append_nil _, rfl⟩
  | cons c rest =>
    have other : ¬ test c = true := Bool.eq_false_iff.mp ends
    rw [List.takeWhile_cons_of_neg other, List.dropWhile_cons_of_neg other, List.append_nil]
    exact ⟨rfl, rfl⟩

namespace Numeral

/-- Digits, and digits after a point if there is one. -/
def IsLiteral (numeral : Numeral) : Prop :=
  (∀ c ∈ numeral.whole, c.isDigit = true) ∧
    match numeral.fraction with
    | none => numeral.whole ≠ []
    | some fraction => fraction ≠ [] ∧ ∀ c ∈ fraction, c.isDigit = true

theorem ends_of_apart {after : List Char} (apart : after.head?.any isStart = false) :
    after.head?.any Char.isDigit = false ∧ ∀ rest, after ≠ '.' :: rest := by
  cases after with
  | nil => exact ⟨rfl, fun rest same => by cases same⟩
  | cons c rest =>
    refine ⟨(Bool.or_eq_false_iff.mp apart).1, fun rest' same => ?_⟩
    cases same
    cases apart

/-- A literal is read as a whole before anything that does not go on with it. -/
theorem read_chars {numeral : Numeral} {after : List Char} (literal : numeral.IsLiteral)
    (apart : after.head?.any isStart = false) :
    read (numeral.chars ++ after) = .ok (numeral, after) := by
  obtain ⟨ends, noPoint⟩ := ends_of_apart apart
  obtain ⟨whole, _ | fraction⟩ := numeral
  · obtain ⟨digits, nonempty⟩ := literal
    obtain ⟨before, behind⟩ := span_append digits ends
    have full : whole.isEmpty = false := List.isEmpty_eq_false_iff.mpr nonempty
    simp only [read, chars, before, behind, full, Bool.false_eq_true, ↓reduceIte]
  · obtain ⟨digits, nonempty, digits'⟩ := literal
    obtain ⟨before, behind⟩ : _ ∧ (whole ++ '.' :: (fraction ++ after)).dropWhile Char.isDigit =
      '.' :: (fraction ++ after) := span_append digits rfl
    obtain ⟨before', behind'⟩ := span_append digits' ends
    have full : fraction.isEmpty = false := List.isEmpty_eq_false_iff.mpr nonempty
    simp only [read, chars, List.append_assoc, List.cons_append, before, behind, before', behind',
      full, Bool.false_eq_true, ↓reduceIte]

end Numeral

namespace Decimal

theorem isDigit_of_mem_digits {d : Decimal} : ∀ c ∈ d.digits, c.isDigit = true :=
  fun _ member => Nat.isDigit_of_mem_toDigits (by decide) (by decide) member

theorem isDigit_of_mem_zeros {count : Nat} : ∀ c ∈ List.replicate count '0', c.isDigit = true := by
  intro c member
  rw [List.eq_of_mem_replicate member]
  decide

theorem digits_ne_nil (d : Decimal) : d.digits ≠ [] := Nat.toDigits_ne_nil

/-- Digits whose last ones stand after a point denote the decimal of as many places. -/
theorem value_pointed {whole fraction : List Char} {coefficient e : Nat}
    (same : Nat.ofDigitChars 10 (whole ++ fraction) 0 = coefficient)
    (places : fraction.length = e + 1) :
    Numeral.value ⟨whole, some fraction⟩ = toFloat ⟨coefficient, .negSucc e⟩ := by
  change (ofDigits (whole ++ fraction) fraction.length).toFloat = _
  rw [places, ofDigits, same]
  rfl

/-- Zeros after the digits of an integer multiply it. -/
theorem toFloat_ofDigits_zeros (coefficient e : Nat) :
    (ofDigits (Nat.toDigits 10 coefficient ++ List.replicate e '0') 0).toFloat =
      toFloat ⟨coefficient, .ofNat e⟩ := by
  have same : Nat.ofDigitChars 10 (Nat.toDigits 10 coefficient ++ List.replicate e '0') 0 =
      coefficient * 10 ^ e := by
    rw [Nat.ofDigitChars_append, Nat.ofDigitChars_ten_toDigits, Nat.ofDigitChars_replicate_zero,
      Nat.mul_comm]
  rw [toFloat, toFloat, ofDigits, same, code_places]
  rfl

/-- A decimal is denoted by its text, a literal. -/
theorem exists_numeral (d : Decimal) :
    ∃ numeral : Numeral, numeral.IsLiteral ∧ numeral.chars = d.positional false ∧
      numeral.value = d.toFloat := by
  have digit := d.isDigit_of_mem_digits
  have nonempty := d.digits_ne_nil
  obtain ⟨coefficient, _ | e⟩ := d
  case ofNat e =>
    refine ⟨⟨digits ⟨coefficient, .ofNat e⟩ ++ List.replicate e '0', none⟩, ⟨?_, ?_⟩, ?_, ?_⟩
    · intro c member
      rcases List.mem_append.mp member with member | member
      · exact digit c member
      · exact isDigit_of_mem_zeros c member
    · exact List.append_ne_nil_of_left_ne_nil nonempty _
    · exact (List.append_nil _).symm
    · exact toFloat_ofDigits_zeros coefficient e
  case negSucc =>
    have value : Nat.ofDigitChars 10 (digits ⟨coefficient, .negSucc e⟩) 0 = coefficient :=
      Nat.ofDigitChars_ten_toDigits
    generalize same : digits ⟨coefficient, .negSucc e⟩ = digits' at digit nonempty value
    by_cases inside : e + 1 < digits'.length
    · refine ⟨⟨digits'.take (digits'.length - (e + 1)),
        some (digits'.drop (digits'.length - (e + 1)))⟩, ⟨?_, ?_, ?_⟩, ?_, ?_⟩
      · exact fun c member => digit c (List.mem_of_mem_take member)
      · apply List.ne_nil_of_length_pos
        rw [List.length_drop]
        omega
      · exact fun c member => digit c (List.mem_of_mem_drop member)
      · simp only [Numeral.chars, positional, same, inside, ↓reduceIte]
      · apply value_pointed
        · rw [List.take_append_drop]
          exact value
        · rw [List.length_drop]
          omega
    · refine ⟨⟨['0'], some (List.replicate (e + 1 - digits'.length) '0' ++ digits')⟩,
        ⟨?_, ?_, ?_⟩, ?_, ?_⟩
      · intro c member
        rw [List.mem_singleton.mp member]
        decide
      · exact List.append_ne_nil_of_right_ne_nil _ nonempty
      · intro c member
        rcases List.mem_append.mp member with member | member
        · exact isDigit_of_mem_zeros c member
        · exact digit c member
      · simp only [Numeral.chars, positional, same, inside, ↓reduceIte]
        rfl
      · apply value_pointed
        · rw [List.singleton_append, Nat.ofDigitChars_cons, Nat.ofDigitChars_append,
            Nat.ofDigitChars_replicate_zero]
          exact value
        · rw [List.length_append, List.length_replicate]
          omega

end Decimal

open Binary64

/-- No exponent is shown in plain texts. -/
theorem plain_magnitude (code : Nat) :
    NumberStyle.plain.magnitude code = (Decimal.shortest .up code).positional false := by
  unfold NumberStyle.magnitude
  exact if_pos rfl

/-- The digits of a finite number are a literal that denotes the number without its sign. -/
theorem exists_numeral_magnitude {x : Float} (finite : x.isFinite = true) :
    ∃ numeral : Numeral, numeral.IsLiteral ∧
      numeral.chars = NumberStyle.plain.magnitude (code x) ∧ numeral.value = ofCode (code x) := by
  obtain ⟨numeral, literal, chars, value⟩ := (Decimal.shortest .up (code x)).exists_numeral
  refine ⟨numeral, literal, chars.trans (plain_magnitude _).symm, ?_⟩
  rw [value, Decimal.toFloat, Decimal.code_shortest .up (isFinite_iff.mp finite)]

theorem plain_write_unsigned {x : Float} (finite : x.isFinite = true)
    (unsigned : isNegative x = false) :
    NumberStyle.plain.write x = NumberStyle.plain.magnitude (code x) := by
  simp only [NumberStyle.write, isNaN_of_isFinite finite, finite, unsigned, Bool.false_eq_true,
    ↓reduceIte]

theorem plain_write_signed {x : Float} (finite : x.isFinite = true)
    (signed : isNegative x = true) :
    NumberStyle.plain.write x = '-' :: NumberStyle.plain.magnitude (code x) := by
  simp only [NumberStyle.write, isNaN_of_isFinite finite, finite, signed, Bool.false_eq_true,
    ↓reduceIte]

end Calculator
