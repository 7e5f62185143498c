import Calculator.Proofs.Number.ReadBack

/-! # Literals

A literal is read off a text that starts with it and does not go on with a digit or a point behind
it. The number that it says is then found by a reader of all the texts that say one, and such a
reader can refuse. It refuses no literal: a literal starts with a digit or a point, so it has no
sign and is no name, and it is a decimal without an exponent. So its number is the value of its
digits.
-/

namespace Calculator

variable {c : Char} {text whole fraction rest : List Char} {numeral : Numeral} {value : Float}
  {length : Nat}

theorem any_head?_dropWhile (test : Char → Bool) (text : List Char) :
    (text.dropWhile test).head?.any test = false := by
  have other := List.head?_dropWhile_not test text
  cases same : text.dropWhile test with
  | nil => rfl
  | cons c rest =>
    rw [same] at other
    exact other

namespace Numeral

theorem isDigit_of_mem_takeWhile (text : List Char) :
    ∀ c ∈ text.takeWhile Char.isDigit, c.isDigit = true :=
  List.all_eq_true.mp List.all_takeWhile

/-- What is left behind digits goes on with a point or not at all. -/
theorem apart_dropWhile (noPoint : ∀ rest, text.dropWhile Char.isDigit ≠ '.' :: rest) :
    (text.dropWhile Char.isDigit).head?.any isStart = false := by
  have notDigit := any_head?_dropWhile Char.isDigit text
  cases same : text.dropWhile Char.isDigit with
  | nil => rfl
  | cons c rest =>
    rw [same] at notDigit
    have notPoint : c ≠ '.' := by
      rintro rfl
      exact noPoint rest same
    change (c.isDigit || decide (c = '.')) = false
    rw [decide_eq_false notPoint, Bool.or_false]
    exact notDigit

theorem isStart_of_mem_chars (literal : numeral.IsLiteral) :
    ∀ c ∈ numeral.chars, isStart c = true := by
  have digit {digits : List Char} (all : ∀ c ∈ digits, c.isDigit = true) :
      ∀ c ∈ digits, isStart c = true :=
    fun c member => Bool.or_eq_true_iff.mpr (.inl (all c member))
  obtain ⟨whole, _ | fraction⟩ := numeral
  · exact digit literal.1
  · obtain ⟨digits, -, digits'⟩ := literal
    exact List.forall_mem_append.mpr
      ⟨digit digits, List.forall_mem_cons.mpr ⟨by decide, digit digits'⟩⟩

theorem chars_ne_nil (literal : numeral.IsLiteral) : numeral.chars ≠ [] := by
  obtain ⟨whole, _ | fraction⟩ := numeral
  · exact literal.2
  · exact List.append_ne_nil_of_right_ne_nil _ (List.cons_ne_nil _ _)

/-- A literal is read if it stands at the start of the text and does not go on behind it. -/
theorem read_eq_ok_iff :
    read text = .ok (numeral, rest) ↔
      numeral.IsLiteral ∧ text = numeral.chars ++ rest ∧ rest.head?.any isStart = false := by
  constructor
  · intro success
    have split := read_append success
    unfold read at success
    dsimp only at success
    split at success
    case h_1 after same =>
      split at success
      · cases success
      case h_2 noPoint =>
        split at success
        · cases success
        case isFalse some =>
          cases success
          refine ⟨⟨isDigit_of_mem_takeWhile text, ?_, isDigit_of_mem_takeWhile after⟩, split,
            apart_dropWhile noPoint⟩
          simpa using some
    case h_2 noPoint =>
      split at success
      · cases success
      case isFalse some =>
        cases success
        refine ⟨⟨isDigit_of_mem_takeWhile text, ?_⟩, split, apart_dropWhile noPoint⟩
        simpa using some
  · rintro ⟨literal, rfl, apart⟩
    exact read_chars literal apart

theorem exists_start (literal : numeral.IsLiteral) :
    ∃ first more, numeral.chars = first :: more ∧ isStart first = true := by
  obtain ⟨first, more, same⟩ := List.exists_cons_of_ne_nil (chars_ne_nil literal)
  have starts := isStart_of_mem_chars literal
  rw [same] at starts
  exact ⟨first, more, same, starts first (List.mem_cons_self ..)⟩

theorem isStart_of_isAlpha (letter : c.isAlpha = true) : isStart c = false := by
  have number : c.isDigit = false := by
    simp only [Char.isAlpha, Char.isUpper, Char.isLower, Char.isDigit] at letter ⊢
    grind
  have notPoint : c ≠ '.' := by
    rintro rfl
    revert letter
    decide
  rw [isStart, number, decide_eq_false notPoint]
  rfl

end Numeral

namespace Decimal

/-- Digits are a decimal without places. -/
theorem ofText?_digits (digits : ∀ c ∈ whole, c.isDigit = true) (nonempty : whole ≠ []) :
    ofText? whole = some (ofDigits whole 0) := by
  have full : whole.isEmpty = false := List.isEmpty_eq_false_iff.mpr nonempty
  have before : whole.takeWhile Char.isDigit = whole := List.takeWhile_eq_self_iff.mpr digits
  have behind : whole.dropWhile Char.isDigit = [] := List.dropWhile_eq_nil_iff.mpr digits
  simp only [ofText?, before, behind, full, Bool.false_and, Bool.false_eq_true, ↓reduceIte,
    List.append_nil, List.length_nil, exponent?, Option.map_some, Int.add_zero]

/-- Digits around a point are a decimal with as many places as digits stand behind it. -/
theorem ofText?_pointed (digits : ∀ c ∈ whole, c.isDigit = true)
    (digits' : ∀ c ∈ fraction, c.isDigit = true) (nonempty : fraction ≠ []) :
    ofText? (whole ++ '.' :: fraction) =
      some (ofDigits (whole ++ fraction) fraction.length) := by
  have full : fraction.isEmpty = false := List.isEmpty_eq_false_iff.mpr nonempty
  obtain ⟨before, behind⟩ : _ ∧ (whole ++ '.' :: fraction).dropWhile Char.isDigit =
    '.' :: fraction := span_append digits rfl
  have before' : fraction.takeWhile Char.isDigit = fraction :=
    List.takeWhile_eq_self_iff.mpr digits'
  have behind' : fraction.dropWhile Char.isDigit = [] := List.dropWhile_eq_nil_iff.mpr digits'
  simp only [ofText?, before, behind, before', behind', full, Bool.and_false, Bool.false_eq_true,
    ↓reduceIte, exponent?, Option.map_some, Int.add_zero]

end Decimal

namespace Binary64

/-- A text that starts like a literal says what it says as a decimal. -/
theorem ofText?_of_isStart (starts : Numeral.isStart c = true) :
    ofText? (c :: text) = (Decimal.ofText? (c :: text)).map Decimal.toFloat := by
  have unsigned : ofText? (c :: text) = magnitudeOfText? (c :: text) := by
    unfold ofText?
    split
    case h_1 same =>
      cases same
      cases starts
    case h_2 same =>
      cases same
      cases starts
    case h_3 => rfl
  have notLetter : c.toLower.isAlpha = false := by
    rw [Char.isAlpha_toLower_eq_isAlpha]
    refine Bool.eq_false_iff.mpr fun letter => ?_
    rw [Numeral.isStart_of_isAlpha letter] at starts
    cases starts
  have unnamed (first : Char) (more : List Char) (letter : first.isAlpha = true) :
      String.ofList ((c :: text).map Char.toLower) ≠ String.ofList (first :: more) := by
    intro same
    rw [String.ofList_inj, List.map_cons] at same
    rw [(List.cons.inj same).1, letter] at notLetter
    cases notLetter
  have finite : ¬ (String.ofList ((c :: text).map Char.toLower) = "inf" ∨
      String.ofList ((c :: text).map Char.toLower) = "infinity") :=
    not_or.mpr ⟨unnamed 'i' ['n', 'f'] rfl, unnamed 'i' ['n', 'f', 'i', 'n', 'i', 't', 'y'] rfl⟩
  have isNumber : String.ofList ((c :: text).map Char.toLower) ≠ "nan" :=
    unnamed 'n' ['a', 'n'] rfl
  rw [unsigned, magnitudeOfText?, if_neg finite, if_neg isNumber]

end Binary64

namespace Numeral

/-- A literal says its value. -/
theorem ofText?_chars (literal : numeral.IsLiteral) :
    Binary64.ofText? numeral.chars = some numeral.value := by
  obtain ⟨first, more, same, starts⟩ := exists_start literal
  rw [same, Binary64.ofText?_of_isStart starts, ← same]
  obtain ⟨whole, _ | fraction⟩ := numeral
  · obtain ⟨digits, nonempty⟩ := literal
    exact congrArg (Option.map Decimal.toFloat) (Decimal.ofText?_digits digits nonempty)
  · obtain ⟨digits, nonempty, digits'⟩ := literal
    exact congrArg (Option.map Decimal.toFloat)
      (Decimal.ofText?_pointed digits digits' nonempty)

/-- Parsing is reading, and then the value of what was read. -/
theorem parse_eq (text : List Char) :
    parse text = (read text).map fun (numeral, _) => (numeral.value, numeral.chars.length) := by
  unfold parse
  cases reads : read text with
  | error failure => rfl
  | ok result =>
    obtain ⟨literal, -⟩ := read_eq_ok_iff.mp reads
    exact convert_eq_ok_iff.mpr ⟨ofText?_chars literal, rfl⟩

theorem parse_eq_ok_iff :
    parse text = .ok (value, length) ↔
      ∃ (numeral : Numeral) (rest : List Char), numeral.IsLiteral ∧ text = numeral.chars ++ rest ∧
        rest.head?.any isStart = false ∧ value = numeral.value ∧ length = numeral.chars.length := by
  rw [parse_eq]
  constructor
  · intro success
    cases reads : read text with
    | error failure =>
      rw [reads] at success
      cases success
    | ok result =>
      rw [reads] at success
      cases success
      obtain ⟨literal, split, apart⟩ := read_eq_ok_iff.mp reads
      exact ⟨result.1, result.2, literal, split, apart, rfl, rfl⟩
  · rintro ⟨numeral, rest, literal, rfl, apart, rfl, rfl⟩
    rw [read_chars literal apart]
    rfl

/-- What cannot be parsed could not be read. -/
theorem parse_eq_error_iff {failure : NumeralFault × Nat} :
    parse text = .error failure ↔ read text = .error failure := by
  rw [parse_eq]
  cases read text <;> simp [Except.map]

end Numeral

end Calculator
