import Calculator.Proofs.Answer.Json
import Calculator.Proofs.Answer.JsonRules
import Calculator.Proofs.Number.ReadBack

/-! # Numbers in JSON

A finite number is read back from its JSON text, sign and all. Written in full it starts with a
zero only in front of its point, and with an exponent it has one digit there, so that it is always
a number of JSON; as its decimal rounds to it, it is the number nearest to what is written.
-/

namespace Calculator

/-- Digits without a zero to leave out in front. -/
def LeadingDigits (whole : List Char) : Prop :=
  whole = ['0'] ∨ whole ≠ [] ∧ whole.head? ≠ some '0' ∧ ∀ c ∈ whole, c.isDigit = true

/-- A positive number is written without a zero in front. -/
theorem head_toDigits {n : Nat} (positive : 0 < n) :
    (Nat.toDigits 10 n).head? ≠ some '0' := by
  induction n using Nat.strongRecOn with
  | ind n ih =>
    by_cases small : n < 10
    · rw [Nat.toDigits_of_lt_base small]
      have nonzero : ∀ n < 10, 0 < n → Nat.digitChar n ≠ '0' := by decide
      exact fun same => nonzero n small positive (Option.some.inj same)
    · have step := Nat.toDigits_eq_if (b := 10) (n := n) (by decide)
      rw [if_neg small] at step
      rw [step, List.head?_append_of_ne_nil _ Nat.toDigits_ne_nil]
      exact ih (n / 10) (by omega) (by omega)

namespace Decimal

variable {d : Decimal} {coefficient e : Nat}

/-- Digits around a point that denote a decimal, as JSON wants them. -/
structure Pointed (d : Decimal) (whole fraction : List Char) : Prop where
  leading : LeadingDigits whole
  digit : ∀ c ∈ fraction, c.isDigit = true
  nonempty : fraction ≠ []
  value : toFloat ⟨Nat.ofDigitChars 10 (whole ++ fraction) 0, -fraction.length⟩ = d.toFloat

theorem isDigit_of_mem_digits_zeros {zeros : Nat} :
    ∀ c ∈ d.digits ++ List.replicate zeros '0', c.isDigit = true :=
  List.forall_mem_append.mpr ⟨d.isDigit_of_mem_digits, isDigit_of_mem_zeros⟩

theorem leadingDigits_digits (positive : 0 < d.coefficient) (zeros : Nat) :
    LeadingDigits (d.digits ++ List.replicate zeros '0') := by
  refine .inr ⟨List.append_ne_nil_of_left_ne_nil d.digits_ne_nil _, ?_, isDigit_of_mem_digits_zeros⟩
  rw [List.head?_append_of_ne_nil _ d.digits_ne_nil]
  exact head_toDigits positive

theorem leadingDigits_take {count : Nat} (positive : 0 < d.coefficient) (some : count ≠ 0) :
    LeadingDigits (d.digits.take count) := by
  refine .inr ⟨?_, ?_, fun c member => d.isDigit_of_mem_digits c (List.mem_of_mem_take member)⟩
  · rw [Ne, List.take_eq_nil_iff, not_or]
    exact ⟨some, d.digits_ne_nil⟩
  · rw [List.head?_take, if_neg some]
    exact head_toDigits positive

theorem coefficient_pos (long : 1 < d.digits.length) : 0 < d.coefficient := by
  refine Nat.pos_of_ne_zero fun zero => ?_
  rw [digits, zero] at long
  exact absurd long (by simp)

/-- A fraction of one zero does not change an integer. -/
theorem toFloat_zero_place (coefficient e : Nat) :
    toFloat ⟨Nat.ofDigitChars 10 (Nat.toDigits 10 coefficient ++ List.replicate e '0' ++ ['0']) 0,
      -(1 : Nat)⟩ = toFloat ⟨coefficient, .ofNat e⟩ := by
  have same : Nat.ofDigitChars 10 (Nat.toDigits 10 coefficient ++ List.replicate e '0' ++ ['0']) 0 =
      coefficient * 10 ^ e * 10 := by
    rw [List.append_assoc, ← List.replicate_succ', Nat.ofDigitChars_append,
      Nat.ofDigitChars_ten_toDigits, Nat.ofDigitChars_replicate_zero, Nat.pow_succ, Nat.mul_comm,
      Nat.mul_assoc]
  have tenths (n : Nat) : code ⟨n * 10, -(1 : Nat)⟩ = Binary64.nearest n 1 := by
    rw [code_places]
    exact Binary64.nearest_scale n 1 (by decide)
  rw [toFloat, toFloat, same, tenths]
  rfl

theorem value_places {whole fraction : List Char} (places : fraction.length = e + 1)
    (same : Nat.ofDigitChars 10 (whole ++ fraction) 0 = coefficient) :
    toFloat ⟨Nat.ofDigitChars 10 (whole ++ fraction) 0, -fraction.length⟩ =
      toFloat ⟨coefficient, .negSucc e⟩ := by
  rw [places, same]
  rfl

/-- An integer is written in full with a fraction of one zero. -/
theorem pointed_integer (zero : coefficient = 0 → (e : Int) = 0) :
    Pointed ⟨coefficient, .ofNat e⟩
      (digits ⟨coefficient, .ofNat e⟩ ++ List.replicate e '0') ['0'] := by
  refine ⟨?_, List.forall_mem_singleton.mpr rfl, List.cons_ne_nil _ _,
    toFloat_zero_place coefficient e⟩
  rcases Nat.eq_zero_or_pos coefficient with rfl | positive
  · rw [Int.natCast_eq_zero.mp (zero rfl)]
    exact .inl rfl
  · exact leadingDigits_digits positive e

/-- A decimal with digits on both sides of its point is written as these digits. -/
theorem pointed_inside (inside : e + 1 < (digits ⟨coefficient, .negSucc e⟩).length) :
    Pointed ⟨coefficient, .negSucc e⟩
      ((digits ⟨coefficient, .negSucc e⟩).take
        ((digits ⟨coefficient, .negSucc e⟩).length - (e + 1)))
      ((digits ⟨coefficient, .negSucc e⟩).drop
        ((digits ⟨coefficient, .negSucc e⟩).length - (e + 1))) := by
  have places : ((digits ⟨coefficient, .negSucc e⟩).drop
      ((digits ⟨coefficient, .negSucc e⟩).length - (e + 1))).length = e + 1 := by
    rw [List.length_drop]
    omega
  refine ⟨leadingDigits_take (coefficient_pos (by omega)) (by omega),
    fun c member => isDigit_of_mem_digits c (List.mem_of_mem_drop member),
    List.ne_nil_of_length_eq_add_one places, value_places places ?_⟩
  rw [List.take_append_drop]
  exact Nat.ofDigitChars_ten_toDigits

/-- A decimal below one is written with a zero before its point. -/
theorem pointed_below (below : ¬ e + 1 < (digits ⟨coefficient, .negSucc e⟩).length) :
    Pointed ⟨coefficient, .negSucc e⟩ ['0']
      (List.replicate (e + 1 - (digits ⟨coefficient, .negSucc e⟩).length) '0' ++
        digits ⟨coefficient, .negSucc e⟩) := by
  refine ⟨.inl rfl, List.forall_mem_append.mpr ⟨isDigit_of_mem_zeros, isDigit_of_mem_digits⟩,
    List.append_ne_nil_of_right_ne_nil _ (digits_ne_nil _), value_places ?_ ?_⟩
  · rw [List.length_append, List.length_replicate]
    omega
  · rw [List.singleton_append, Nat.ofDigitChars_cons, Nat.ofDigitChars_append,
      Nat.ofDigitChars_replicate_zero]
    exact Nat.ofDigitChars_ten_toDigits

/-- A decimal is written in full as digits around a point. -/
theorem exists_pointed (zero : d.coefficient = 0 → d.exponent = 0) :
    ∃ whole fraction, d.positional true = whole ++ '.' :: fraction ∧ d.Pointed whole fraction := by
  obtain ⟨coefficient, _ | e⟩ := d
  case ofNat e => exact ⟨_, _, rfl, pointed_integer zero⟩
  case negSucc =>
    by_cases inside : e + 1 < (digits ⟨coefficient, .negSucc e⟩).length
    · refine ⟨_, _, ?_, pointed_inside inside⟩
      simp only [positional, inside, ↓reduceIte]
    · refine ⟨_, _, ?_, pointed_below inside⟩
      simp only [positional, inside, ↓reduceIte]
      rfl

end Decimal

namespace Json

/-- Whether a character goes on with a number. -/
def goesOn (c : Char) : Bool := c.isDigit || c = '.' || c = 'e' || c = 'E'

section Readers

variable {text rest : List Char}

theorem digits_append (all : ∀ c ∈ text, c.isDigit = true) (nonempty : text ≠ [])
    (ends : rest.head?.any Char.isDigit = false) : Takes digits (text ++ rest) text rest := by
  obtain ⟨before, behind⟩ := span_append all ends
  refine ⟨by rw [List.length_append]; omega, ?_⟩
  unfold digits
  simp only [before, behind, nonempty, ↓reduceIte]

theorem whole_eq_digits (nonzero : text.head? ≠ some '0') : whole text = digits text := by
  unfold whole
  split
  · exact absurd rfl nonzero
  · rfl

theorem whole_append (leading : LeadingDigits text) (ends : rest.head?.any Char.isDigit = false) :
    Takes whole (text ++ rest) text rest := by
  obtain rfl | ⟨nonempty, nonzero, all⟩ := leading
  · exact ⟨Nat.le_succ _, rfl⟩
  · rw [Takes, whole_eq_digits (by rwa [List.head?_append_of_ne_nil _ nonempty])]
    exact digits_append all nonempty ends

theorem fraction_append (all : ∀ c ∈ text, c.isDigit = true) (nonempty : text ≠ [])
    (ends : rest.head?.any Char.isDigit = false) :
    Takes fraction ('.' :: (text ++ rest)) text rest := by
  obtain ⟨shorter, read⟩ := digits_append all nonempty ends
  refine ⟨Nat.le_succ_of_le shorter, ?_⟩
  simp only [fraction, read]
  rfl

theorem fraction_absent (ends : rest.head? ≠ some '.') : Takes fraction rest [] rest := by
  refine ⟨Nat.le_refl _, ?_⟩
  unfold fraction
  split
  · exact absurd rfl ends
  · rfl

theorem exponent_absent (ends : rest.head?.any goesOn = false) : Takes exponent rest 0 rest := by
  refine ⟨Nat.le_refl _, ?_⟩
  unfold exponent
  split
  · cases ends
  · cases ends
  · rfl

/-- A whole number need not have a sign. -/
theorem signed_of_digits {whole : List Char} (starts : text.head?.any Char.isDigit = true)
    (read : Takes digits text whole rest) :
    Takes signed text (Nat.ofDigitChars 10 whole 0) rest := by
  obtain ⟨shorter, read⟩ := read
  refine ⟨shorter, ?_⟩
  unfold signed
  split
  · cases starts
  · cases starts
  · rw [read]
    rfl

/-- A whole number is read with its sign, plus included. -/
theorem signed_append (plus : Bool) (power : Int) (ends : rest.head?.any Char.isDigit = false) :
    Takes signed ((if power < 0 then ['-'] else if plus then ['+'] else []) ++
      (Nat.toDigits 10 power.natAbs ++ rest)) power rest := by
  have all : ∀ c ∈ Nat.toDigits 10 power.natAbs, c.isDigit = true := fun _ member =>
    Nat.isDigit_of_mem_toDigits (by decide) (by decide) member
  have read := digits_append all Nat.toDigits_ne_nil ends
  have value : Nat.ofDigitChars 10 (Nat.toDigits 10 power.natAbs) 0 = power.natAbs :=
    Nat.ofDigitChars_ten_toDigits
  by_cases negative : power < 0
  · have same : -(power.natAbs : Int) = power := by omega
    obtain ⟨shorter, read⟩ := read
    rw [if_pos negative]
    refine ⟨Nat.le_succ_of_le shorter, ?_⟩
    simp only [List.cons_append, List.nil_append, signed, read, value, same,
      Option.bind_eq_bind, Option.bind_some, Option.pure_def]
  have same : (power.natAbs : Int) = power := by omega
  rw [if_neg negative]
  cases plus with
  | true =>
    obtain ⟨shorter, read⟩ := read
    rw [if_pos rfl]
    refine ⟨Nat.le_succ_of_le shorter, ?_⟩
    simp only [List.cons_append, List.nil_append, signed, read, value, same, Option.bind_eq_bind,
      Option.bind_some, Option.pure_def]
  | false =>
    have starts : (Nat.toDigits 10 power.natAbs ++ rest).head?.any Char.isDigit = true := by
      rw [List.head?_append_of_ne_nil _ Nat.toDigits_ne_nil,
        List.head?_eq_some_head Nat.toDigits_ne_nil]
      exact all _ (List.head_mem _)
    have read' := signed_of_digits starts read
    rw [value, same] at read'
    exact read'

/-- The power of ten is what stands behind the letter. -/
theorem exponent_append (plus : Bool) (power : Int) (ends : rest.head?.any Char.isDigit = false) :
    Takes exponent ('e' :: ((if power < 0 then ['-'] else if plus then ['+'] else []) ++
      (Nat.toDigits 10 power.natAbs ++ rest))) power rest := by
  obtain ⟨shorter, read⟩ := signed_append plus power ends
  refine ⟨Nat.le_succ_of_le shorter, ?_⟩
  rw [exponent, read]
  rfl

/-- The three parts of a number are read one behind the other. -/
theorem magnitude_of_parts {before places rest' rest'' : List Char} {power : Int}
    (front : Takes whole text before rest') (back : Takes fraction rest' places rest'')
    (behind : Takes exponent rest'' power rest) :
    Takes magnitude text
      ⟨Nat.ofDigitChars 10 (before ++ places) 0, power - places.length⟩ rest := by
  obtain ⟨shorter, front⟩ := front
  obtain ⟨shorter', back⟩ := back
  obtain ⟨shorter'', behind⟩ := behind
  refine ⟨Nat.le_trans (Nat.le_trans shorter'' shorter') shorter, ?_⟩
  simp only [magnitude, front, back, behind, Option.bind_eq_bind, Option.bind_some,
    Option.pure_def]

theorem ends_of_goesOn (ends : rest.head?.any goesOn = false) :
    rest.head?.any Char.isDigit = false ∧ rest.head? ≠ some '.' := by
  cases rest with
  | nil => exact ⟨rfl, nofun⟩
  | cons c rest =>
    simp only [List.head?_cons, Option.any_some, goesOn, Bool.or_eq_false_iff,
      decide_eq_false_iff_not] at ends
    exact ⟨ends.1.1.1, fun same => ends.1.1.2 (Option.some.inj same)⟩

/-- A decimal written in full is read as one that denotes the same number. -/
theorem magnitude_positional {d : Decimal} (zero : d.coefficient = 0 → d.exponent = 0)
    (ends : rest.head?.any goesOn = false) :
    ∃ d' : Decimal, d'.toFloat = d.toFloat ∧
      Takes magnitude (d.positional true ++ rest) d' rest := by
  obtain ⟨before, places, written, pointed⟩ := Decimal.exists_pointed zero
  refine ⟨_, pointed.value, ?_⟩
  rw [written, List.append_assoc, List.cons_append, ← Int.zero_sub]
  exact magnitude_of_parts (whole_append pointed.leading rfl)
    (fraction_append pointed.digit pointed.nonempty (ends_of_goesOn ends).1)
    (exponent_absent ends)

theorem leadingDigits_singleton {c : Char} (digit : c.isDigit = true) : LeadingDigits [c] := by
  by_cases zero : c = '0'
  · exact .inl (by rw [zero])
  · refine .inr ⟨List.cons_ne_nil _ _, fun same => zero (Option.some.inj same), fun c' member => ?_⟩
    rwa [List.mem_singleton.mp member]

/-- The digits of a decimal, cut behind the first one, with its leading exponent. -/
theorem decimal_eq {d : Decimal} {first : Char} {places : List Char}
    (cut : d.digits = first :: places) :
    (⟨Nat.ofDigitChars 10 ([first] ++ places) 0, d.leadingExponent - places.length⟩ : Decimal) =
      d := by
  have value : Nat.ofDigitChars 10 d.digits 0 = d.coefficient := Nat.ofDigitChars_ten_toDigits
  have length := congrArg List.length cut
  rw [List.length_cons] at length
  have exponent : d.leadingExponent - places.length = d.exponent := by
    rw [Decimal.leadingExponent, length]
    omega
  rw [List.singleton_append, ← cut, value, exponent]

/-- A decimal written with an exponent is read back. -/
theorem magnitude_scientific (d : Decimal) (plus : Bool) (ends : rest.head?.any goesOn = false) :
    Takes magnitude (d.scientific plus ++ rest) d rest := by
  have digit := d.isDigit_of_mem_digits
  have power := exponent_append plus d.leadingExponent (ends_of_goesOn ends).1
  match cut : d.digits with
  | [] => exact absurd cut d.digits_ne_nil
  | first :: places =>
    rw [cut, List.forall_mem_cons] at digit
    have value := decimal_eq cut
    have leading := leadingDigits_singleton digit.1
    cases places with
    | nil =>
      have read := magnitude_of_parts (whole_append leading rfl) (fraction_absent (by simp)) power
      rw [value] at read
      simpa only [Decimal.scientific, cut, List.cons_append, List.nil_append,
        List.append_assoc] using read
    | cons second places =>
      have back (tail : List Char) : Takes fraction ('.' :: (second :: places ++ 'e' :: tail))
          (second :: places) ('e' :: tail) :=
        fraction_append digit.2 (List.cons_ne_nil _ _) rfl
      have read := magnitude_of_parts (whole_append leading rfl) (back _) power
      rw [value] at read
      simpa only [Decimal.scientific, cut, List.cons_append, List.nil_append,
        List.append_assoc] using read

/-- However a decimal is laid out, it is read as one that denotes the same number. -/
theorem magnitude_isLayout {d : Decimal} {layout : List Char}
    (zero : d.coefficient = 0 → d.exponent = 0) (laid : d.IsLayout layout)
    (ends : rest.head?.any goesOn = false) :
    ∃ d' : Decimal, d'.toFloat = d.toFloat ∧ Takes magnitude (layout ++ rest) d' rest := by
  cases laid with
  | positional => exact magnitude_positional zero ends
  | scientific signed => exact ⟨d, rfl, magnitude_scientific d signed ends⟩

theorem numeral_unsigned {d : Decimal} {x : Float} (value : d.toFloat = x)
    (read : Takes magnitude text d rest) : Takes numeral text x rest := by
  subst value
  obtain ⟨shorter, read⟩ := read
  refine ⟨shorter, ?_⟩
  unfold numeral
  split
  · cases read
  · rw [read]
    rfl

theorem numeral_signed {d : Decimal} {x : Float} (value : -d.toFloat = x)
    (read : Takes magnitude text d rest) : Takes numeral ('-' :: text) x rest := by
  subst value
  obtain ⟨shorter, read⟩ := read
  refine ⟨Nat.le_succ_of_le shorter, ?_⟩
  simp only [numeral, read]
  rfl

/-- The text of a finite number is read as the number, sign and all. -/
theorem numeral_isNumeral {x : Float} (finite : x.isFinite = true) (numeral : IsNumeral x text)
    (ends : rest.head?.any goesOn = false) : Takes Json.numeral (text ++ rest) x rest := by
  obtain ⟨d, layout, zero, same, laid, rfl⟩ := numeral
  obtain ⟨d', value, read⟩ := magnitude_isLayout zero laid ends
  have same' : d.toFloat = Binary64.ofCode (Binary64.code x) := by rw [Decimal.toFloat, same]
  rw [same'] at value
  by_cases signed : Binary64.isNegative x = true
  · rw [if_pos signed, List.cons_append]
    exact numeral_signed (value ▸ Binary64.neg_ofCode_code finite signed) read
  · rw [if_neg signed]
    exact numeral_unsigned
      (value.trans (Binary64.ofCode_code (Bool.eq_false_iff.mpr signed))) read

/-- What is read as a number starts with nothing that another value starts with. -/
theorem value_of_numeral {x : Float} (read : Takes numeral text x rest) :
    Takes value text (.number x) rest := by
  obtain ⟨shorter, read⟩ := read
  refine ⟨shorter, ?_⟩
  rw [value]
  · rw [read]
    rfl
  all_goals
    rintro _ rfl
    cases read

/-- No space stands in front of a number. -/
theorem skip_of_numeral {x : Float} (read : Takes numeral text x rest) : skip text = text := by
  obtain ⟨shorter, read⟩ := read
  cases text with
  | nil => rfl
  | cons c text =>
    refine skip_cons ?_ text
    by_contra space
    simp only [isSpace, Bool.not_eq_false, Bool.or_eq_true, decide_eq_true_eq] at space
    obtain ((rfl | rfl) | rfl) | rfl := space <;> cases read

end Readers

end Json

/-- A character that numbers are written with. -/
def IsNumeric (c : Char) : Prop := c.isDigit = true ∨ c ∈ ['-', '+', '.', 'e']

namespace Decimal

variable {d : Decimal}

theorem isNumeric_digits : ∀ c ∈ d.digits, IsNumeric c := fun c member =>
  .inl (d.isDigit_of_mem_digits c member)

theorem isNumeric_zeros {count : Nat} : ∀ c ∈ List.replicate count '0', IsNumeric c :=
  fun c member => .inl (isDigit_of_mem_zeros c member)

theorem isNumeric_positional {pointed : Bool} : ∀ c ∈ d.positional pointed, IsNumeric c := by
  have zero : IsNumeric '0' := .inl rfl
  have point : IsNumeric '.' := .inr (by decide)
  have digits := d.isNumeric_digits
  unfold positional
  split
  · refine List.forall_mem_append.mpr
      ⟨List.forall_mem_append.mpr ⟨digits, isNumeric_zeros⟩, ?_⟩
    cases pointed
    · exact List.forall_mem_nil _
    · exact List.forall_mem_cons.mpr ⟨point, List.forall_mem_singleton.mpr zero⟩
  · dsimp only
    split
    · exact List.forall_mem_append.mpr ⟨fun c member => digits c (List.mem_of_mem_take member),
        List.forall_mem_cons.mpr ⟨point, fun c member => digits c (List.mem_of_mem_drop member)⟩⟩
    · exact List.forall_mem_cons.mpr ⟨zero, List.forall_mem_cons.mpr ⟨point,
        List.forall_mem_append.mpr ⟨isNumeric_zeros, digits⟩⟩⟩

theorem isNumeric_scientific {signed : Bool} : ∀ c ∈ d.scientific signed, IsNumeric c := by
  have digits := d.isNumeric_digits
  have power : ∀ c ∈ Nat.toDigits 10 d.leadingExponent.natAbs, IsNumeric c := fun _ member =>
    .inl (Nat.isDigit_of_mem_toDigits (by decide) (by decide) member)
  have sign : ∀ c ∈ if d.leadingExponent < 0 then ['-'] else if signed then ['+'] else [],
      IsNumeric c := by
    split
    · exact List.forall_mem_singleton.mpr (.inr (by decide))
    · split
      · exact List.forall_mem_singleton.mpr (.inr (by decide))
      · exact List.forall_mem_nil _
  have exponent : IsNumeric 'e' := .inr (by decide)
  have point : IsNumeric '.' := .inr (by decide)
  unfold scientific
  refine List.forall_mem_append.mpr
    ⟨List.forall_mem_append.mpr ⟨?_, List.forall_mem_cons.mpr ⟨exponent, sign⟩⟩, power⟩
  split
  case h_1 first second rest cut =>
    rw [cut] at digits
    obtain ⟨first, places⟩ := List.forall_mem_cons.mp digits
    exact List.forall_mem_cons.mpr ⟨first, List.forall_mem_cons.mpr ⟨point, places⟩⟩
  case h_2 => exact digits

end Decimal

theorem IsNumeral.isNumeric {x : Float} {text : List Char} (numeral : IsNumeral x text) :
    ∀ c ∈ text, IsNumeric c := by
  obtain ⟨d, layout, -, -, laid, rfl⟩ := numeral
  have unsigned : ∀ c ∈ layout, IsNumeric c := by
    cases laid with
    | positional => exact Decimal.isNumeric_positional
    | scientific => exact Decimal.isNumeric_scientific
  split
  · exact List.forall_mem_cons.mpr ⟨.inr (by decide), unsigned⟩
  · exact unsigned

end Calculator
