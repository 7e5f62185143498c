import Calculator.Proofs.Token.Tokenization

/-! # Literals and the runs they are read from

A literal is read from the digits and points that a text starts with, its run. A run is a literal,
or it ends in its only point, or it has two points, and what is read is settled by which of them it
is. It is the same for a text and for its bytes.
-/

namespace Calculator

namespace Numeral

/-- The digits and points that a text starts with. -/
def run (text : List Char) : List Char := text.takeWhile isStart

/-- The number nearest to what digits say, those behind a point as decimal places. -/
def valueOfRun (run : List Char) : Float :=
  (Decimal.ofDigits (run.filter Char.isDigit) (run.dropWhile (· ≠ '.')).tail.length).toFloat

variable {text rest whole fraction after : List Char} {numeral : Numeral}

/-- What digits and points can be together. -/
inductive RunForm : List Char → Prop
  | literal (numeral : Numeral) (literal : numeral.IsLiteral) : RunForm numeral.chars
  | noFraction (whole : List Char) (digits : ∀ c ∈ whole, c.isDigit = true) :
    RunForm (whole ++ ['.'])
  | secondPoint (whole fraction more : List Char) (digits : ∀ c ∈ whole, c.isDigit = true)
      (digits' : ∀ c ∈ fraction, c.isDigit = true) :
    RunForm (whole ++ '.' :: (fraction ++ '.' :: more))

/-- What goes on behind the digits of a run goes on with a point. -/
theorem eq_point_of_dropWhile {c : Char} {run : List Char} (small : ∀ c ∈ run, isStart c = true)
    (behind : run.dropWhile Char.isDigit = c :: rest) :
    c = '.' ∧ ∀ c ∈ rest, isStart c = true := by
  have notDigit := any_head?_dropWhile Char.isDigit run
  rw [behind] at notDigit
  have notDigit : c.isDigit = false := notDigit
  have small : ∀ c ∈ run.dropWhile Char.isDigit, isStart c = true := fun c member =>
    small c ((List.dropWhile_sublist _).subset member)
  rw [behind] at small
  obtain ⟨first, small⟩ := List.forall_mem_cons.mp small
  rw [isStart, notDigit, Bool.false_or, decide_eq_true_eq] at first
  exact ⟨first, small⟩

theorem runForm {run : List Char} (small : ∀ c ∈ run, isStart c = true) (nonempty : run ≠ []) :
    RunForm run := by
  have split := List.takeWhile_append_dropWhile (p := Char.isDigit) (l := run)
  have digits := isDigit_of_mem_takeWhile run
  cases behind : run.dropWhile Char.isDigit with
  | nil =>
    rw [behind, List.append_nil] at split
    rw [split] at digits
    exact .literal ⟨run, none⟩ ⟨digits, nonempty⟩
  | cons c rest =>
    obtain ⟨rfl, small⟩ := eq_point_of_dropWhile small behind
    have inner := List.takeWhile_append_dropWhile (p := Char.isDigit) (l := rest)
    have digits' := isDigit_of_mem_takeWhile rest
    rw [behind] at split
    rw [← split]
    cases behind' : rest.dropWhile Char.isDigit with
    | nil =>
      rw [behind', List.append_nil] at inner
      rw [inner] at digits'
      cases rest with
      | nil => exact .noFraction _ digits
      | cons first more =>
        exact .literal ⟨run.takeWhile Char.isDigit, some (first :: more)⟩
          ⟨digits, List.cons_ne_nil _ _, digits'⟩
    | cons c more =>
      obtain ⟨rfl, -⟩ := eq_point_of_dropWhile small behind'
      rw [behind'] at inner
      rw [← inner]
      exact .secondPoint _ _ more digits digits'

theorem read_noFraction (digits : ∀ c ∈ whole, c.isDigit = true)
    (apart : after.head?.any isStart = false) :
    read (whole ++ ['.'] ++ after) = .error (.noFraction, (whole ++ ['.']).length) := by
  obtain ⟨ends, noPoint⟩ := ends_of_apart apart
  obtain ⟨before, behind⟩ : _ ∧ (whole ++ '.' :: after).dropWhile Char.isDigit = '.' :: after :=
    span_append digits rfl
  obtain ⟨before', behind'⟩ := span_append (List.forall_mem_nil (Char.isDigit · = true)) ends
  rw [List.nil_append] at before' behind'
  simp only [read, List.append_assoc, List.singleton_append, before, behind, before', behind',
    List.isEmpty_nil, ↓reduceIte, List.length_append, List.length_singleton]

theorem read_secondPoint (digits : ∀ c ∈ whole, c.isDigit = true)
    (digits' : ∀ c ∈ fraction, c.isDigit = true) :
    read (whole ++ '.' :: (fraction ++ '.' :: after)) =
      .error (.secondPoint, (whole ++ '.' :: fraction).length + 1) := by
  obtain ⟨before, behind⟩ :
      _ ∧ (whole ++ '.' :: (fraction ++ '.' :: after)).dropWhile Char.isDigit =
        '.' :: (fraction ++ '.' :: after) := span_append digits rfl
  obtain ⟨before', behind'⟩ : _ ∧ (fraction ++ '.' :: after).dropWhile Char.isDigit =
    '.' :: after := span_append digits' rfl
  simp only [read, before, behind, before', behind', List.length_append, List.length_cons,
    Nat.add_assoc, Nat.add_comm 1]

theorem point_not_mem (digits : ∀ c ∈ whole, c.isDigit = true) : '.' ∉ whole :=
  fun member => absurd (digits '.' member) (by decide)

theorem count_point_digits (digits : ∀ c ∈ whole, c.isDigit = true) : whole.count '.' = 0 :=
  List.count_eq_zero.mpr (point_not_mem digits)

theorem getLast?_digits (digits : ∀ c ∈ whole, c.isDigit = true) : whole.getLast? ≠ some '.' :=
  fun last => point_not_mem digits (List.mem_of_getLast? last)

theorem count_point (digits : ∀ c ∈ whole, c.isDigit = true) (rest : List Char) :
    (whole ++ '.' :: rest).count '.' = rest.count '.' + 1 := by
  rw [List.count_append, count_point_digits digits, List.count_cons_self, Nat.zero_add]

/-- A literal has one point at most and does not end in it. -/
theorem IsLiteral.points (literal : numeral.IsLiteral) :
    numeral.chars.count '.' ≤ 1 ∧ numeral.chars.getLast? ≠ some '.' := by
  obtain ⟨whole, _ | fraction⟩ := numeral
  · obtain ⟨digits, -⟩ := literal
    exact ⟨Nat.le_of_lt (Nat.lt_one_iff.mpr (count_point_digits digits)), getLast?_digits digits⟩
  · obtain ⟨digits, nonempty, digits'⟩ := literal
    constructor
    · exact Nat.le_of_eq ((count_point digits fraction).trans
        (congrArg (· + 1) (count_point_digits digits')))
    · have last : (whole ++ '.' :: fraction).getLast? = fraction.getLast? := by
        rw [← List.singleton_append, ← List.append_assoc,
          List.getLast?_append_of_ne_nil _ nonempty]
      exact last.trans_ne (getLast?_digits digits')

/-- A literal has the value of its characters. -/
theorem IsLiteral.value_eq (literal : numeral.IsLiteral) :
    numeral.value = valueOfRun numeral.chars := by
  have notPoint {digits : List Char} (all : ∀ c ∈ digits, c.isDigit = true) :
      ∀ c ∈ digits, decide (c ≠ '.') = true :=
    fun c member => decide_eq_true (ne_of_mem_of_not_mem member (point_not_mem all))
  obtain ⟨whole, _ | fraction⟩ := numeral
  · obtain ⟨digits, -⟩ := literal
    have none : whole.dropWhile (· ≠ '.') = [] := List.dropWhile_eq_nil_iff.mpr (notPoint digits)
    calc value ⟨whole, Option.none⟩
      _ = (Decimal.ofDigits whole 0).toFloat := rfl
      _ = valueOfRun whole := by
        rw [valueOfRun, List.filter_eq_self.mpr digits, none]
        rfl
  · obtain ⟨digits, -, digits'⟩ := literal
    have behind : (whole ++ '.' :: fraction).dropWhile (· ≠ '.') = '.' :: fraction :=
      (span_append (notPoint digits) rfl).2
    have both : (whole ++ '.' :: fraction).filter Char.isDigit = whole ++ fraction := by
      rw [List.filter_append, List.filter_eq_self.mpr digits,
        List.filter_cons_of_neg (by decide), List.filter_eq_self.mpr digits']
    calc value ⟨whole, some fraction⟩
      _ = (Decimal.ofDigits (whole ++ fraction) fraction.length).toFloat := rfl
      _ = valueOfRun (whole ++ '.' :: fraction) := by
        rw [valueOfRun, both, behind]
        rfl

/-- What is parsed at the start of a text is settled by its run. -/
structure ParsesRun (parsed : Except (NumeralFault × Nat) (Float × Nat)) (run : List Char) :
    Prop where
  /-- A run is accepted if it has one point at most and does not end in it. -/
  accepts : (∃ value length, parsed = .ok (value, length)) ↔
    run.count '.' ≤ 1 ∧ run.getLast? ≠ some '.'
  /-- Then all of it is taken. Its text says a number, and this is the value of the run. -/
  whole : ∀ value length, parsed = .ok (value, length) →
    length = run.length ∧ Binary64.ofText? run = some value ∧ value = valueOfRun run
  /-- Of two points the second one is reported, and the report ends right behind it. -/
  secondPoint : 2 ≤ run.count '.' → ∃ start more, run = start ++ '.' :: more ∧
    start.count '.' = 1 ∧ parsed = .error (.secondPoint, start.length + 1)
  /-- A single point at the end of a run is reported with all of the run. -/
  noFraction : run.count '.' ≤ 1 → run.getLast? = some '.' →
    parsed = .error (.noFraction, run.length)

theorem RunForm.parsesRun {run : List Char} (form : RunForm run)
    (apart : after.head?.any isStart = false) : ParsesRun (parse (run ++ after)) run := by
  cases form with
  | literal numeral literal =>
    have parses : parse (numeral.chars ++ after) = .ok (numeral.value, numeral.chars.length) :=
      parse_eq_ok_iff.mpr ⟨numeral, after, literal, rfl, apart, rfl, rfl⟩
    obtain ⟨few, last⟩ := literal.points
    refine ⟨iff_of_true ⟨_, _, parses⟩ ⟨few, last⟩, fun value length success => ?_,
      fun many => absurd few (Nat.not_le.mpr many), fun _ ends => absurd ends last⟩
    cases parses.symm.trans success
    exact ⟨rfl, ofText?_chars literal, literal.value_eq⟩
  | noFraction whole digits =>
    have fails := parse_eq_error_iff.mpr (read_noFraction digits apart)
    have few := Nat.le_of_eq (count_point digits [])
    refine ⟨iff_of_false ?_ fun accepted => accepted.2 List.getLast?_concat,
      fun value length success => ?_, fun many => absurd few (Nat.not_le.mpr many),
      fun _ _ => fails⟩
    · rintro ⟨value, length, success⟩
      cases fails.symm.trans success
    · cases fails.symm.trans success
  | secondPoint whole fraction more digits digits' =>
    have one : (whole ++ '.' :: fraction).count '.' = 1 :=
      (count_point digits fraction).trans (congrArg (· + 1) (count_point_digits digits'))
    have split : whole ++ '.' :: (fraction ++ '.' :: more) =
        (whole ++ '.' :: fraction) ++ '.' :: more := by
      rw [List.append_assoc, List.cons_append]
    have many : 2 ≤ ((whole ++ '.' :: fraction) ++ '.' :: more).count '.' := by
      rw [List.count_append, one, List.count_cons_self]
      omega
    rw [← split] at many
    have fails : parse (whole ++ '.' :: (fraction ++ '.' :: more) ++ after) =
        .error (.secondPoint, (whole ++ '.' :: fraction).length + 1) := by
      rw [List.append_assoc, List.cons_append, List.append_assoc, List.cons_append]
      exact parse_eq_error_iff.mpr (read_secondPoint digits digits')
    have notFew : ¬ (whole ++ '.' :: (fraction ++ '.' :: more)).count '.' ≤ 1 :=
      Nat.not_le.mpr many
    refine ⟨iff_of_false ?_ fun accepted => notFew accepted.1, fun value length success => ?_,
      fun _ => ⟨_, more, split, one, fails⟩, fun few => absurd few notFew⟩
    · rintro ⟨value, length, success⟩
      cases fails.symm.trans success
    · cases fails.symm.trans success

/-- What is parsed is the same whatever follows a run. -/
theorem RunForm.parse_eq {run : List Char} (form : RunForm run) {after after' : List Char}
    (apart : after.head?.any isStart = false) (apart' : after'.head?.any isStart = false) :
    parse (run ++ after) = parse (run ++ after') := by
  rw [Numeral.parse_eq, Numeral.parse_eq]
  cases form with
  | literal numeral literal =>
    rw [read_chars literal apart, read_chars literal apart']
    rfl
  | noFraction whole digits => rw [read_noFraction digits apart, read_noFraction digits apart']
  | secondPoint whole fraction more digits digits' =>
    simp only [List.append_assoc, List.cons_append, read_secondPoint digits digits']

theorem isStart_of_mem_run (text : List Char) : ∀ c ∈ run text, isStart c = true :=
  List.all_eq_true.mp List.all_takeWhile

theorem runForm_run (starts : Scanner.startsLiteral text = true) : RunForm (run text) := by
  refine runForm (isStart_of_mem_run text) fun none => ?_
  cases text with
  | nil => cases starts
  | cons c rest =>
    have first : isStart c = true := starts
    rw [run, List.takeWhile_cons_of_pos first] at none
    cases none

theorem parsesRun (starts : Scanner.startsLiteral text = true) :
    ParsesRun (parse text) (run text) := by
  have parses := (runForm_run starts).parsesRun (any_head?_dropWhile isStart text)
  rwa [run, List.takeWhile_append_dropWhile] at parses

/-- What starts like a literal starts with a run, in one of its forms. -/
theorem exists_runForm (starts : Scanner.startsLiteral text = true) :
    ∃ digits after, text = digits ++ after ∧ (∀ c ∈ digits, isStart c = true) ∧ RunForm digits ∧
      after.head?.any isStart = false :=
  ⟨run text, text.dropWhile isStart, List.takeWhile_append_dropWhile.symm,
    isStart_of_mem_run text, runForm_run starts, any_head?_dropWhile isStart text⟩

/-- What starts like a literal and is none is rejected with digits and points at its start. -/
theorem exists_run_of_error {cause : NumeralFault} {length : Nat}
    (starts : Scanner.startsLiteral text = true) (failed : parse text = .error (cause, length)) :
    ∃ run behind, text = run ++ behind ∧ run.length = length ∧ run ≠ [] ∧
      ∀ c ∈ run, isStart c = true := by
  rw [parse_eq_error_iff] at failed
  obtain ⟨digits, after, rfl, small, form, apart⟩ := exists_runForm starts
  cases form with
  | literal numeral literal =>
    rw [read_chars literal apart] at failed
    cases failed
  | noFraction whole digits =>
    rw [read_noFraction digits apart] at failed
    cases failed
    exact ⟨_, after, rfl, rfl, List.append_ne_nil_of_right_ne_nil _ (List.cons_ne_nil _ _), small⟩
  | secondPoint whole fraction more digits digits' =>
    have split : whole ++ '.' :: (fraction ++ '.' :: more) =
        (whole ++ '.' :: fraction ++ ['.']) ++ more := by
      simp only [List.append_assoc, List.cons_append, List.nil_append]
    have fails : read (whole ++ '.' :: (fraction ++ '.' :: (more ++ after))) =
        .error (.secondPoint, (whole ++ '.' :: fraction).length + 1) :=
      read_secondPoint digits digits'
    rw [List.append_assoc, List.cons_append, List.append_assoc, List.cons_append] at failed
    cases fails.symm.trans failed
    rw [split] at small ⊢
    exact ⟨_, more ++ after, List.append_assoc .., List.length_append,
      List.append_ne_nil_of_right_ne_nil _ (List.cons_ne_nil _ _),
      fun c member => small c (List.mem_append_left more member)⟩

/-- What is wrong with a run that something starts with is its points. -/
theorem cause_of_error {cause : NumeralFault} {length : Nat}
    (starts : Scanner.startsLiteral text = true) (fails : parse text = .error (cause, length)) :
    cause = .secondPoint ∨ cause = .noFraction := by
  have parses := parsesRun starts
  rcases Nat.lt_or_ge 1 ((run text).count '.') with many | few
  · obtain ⟨start, more, -, -, fails'⟩ := parses.secondPoint many
    cases fails.symm.trans fails'
    exact .inl rfl
  · by_cases last : (run text).getLast? = some '.'
    · cases fails.symm.trans (parses.noFraction few last)
      exact .inr rfl
    · obtain ⟨value, length, success⟩ := parses.accepts.mpr ⟨few, last⟩
      cases fails.symm.trans success

/-- The bytes of a point and of the digits. -/
def literalBytes : List UInt8 :=
  [0x2E, 0x30, 0x31, 0x32, 0x33, 0x34, 0x35, 0x36, 0x37, 0x38, 0x39]

theorem isStart_ofNat (byte : UInt8) :
    isStart (Char.ofNat byte.toNat) = decide (byte ∈ literalBytes) := by
  have small : ∀ n < 256, isStart (Char.ofNat n) = decide (UInt8.ofNat n ∈ literalBytes) := by
    decide +kernel
  rw [small byte.toNat byte.toNat_lt, UInt8.ofNat_toNat]

theorem run_ofBytes (bytes : List UInt8) :
    run (ofBytes bytes) = ofBytes (bytes.takeWhile (· ∈ literalBytes)) := by
  rw [run, ofBytes, List.takeWhile_map, ofBytes]
  exact congrArg (fun test => (bytes.takeWhile test).map _) (funext isStart_ofNat)

theorem startsLiteral_ofBytes (bytes : List UInt8) :
    Scanner.startsLiteral (ofBytes bytes) = bytes.head?.any (· ∈ literalBytes) := by
  cases bytes with
  | nil => rfl
  | cons byte more => exact isStart_ofNat byte

/-- The bytes of a text start with the same run as the text itself. -/
theorem run_utf8 (text : List Char) : run (ofBytes (utf8 text)) = run text := by
  induction text with
  | nil => rfl
  | cons c rest ih =>
    have split : ofBytes (utf8 (c :: rest)) =
        ofBytes (String.utf8EncodeChar c) ++ ofBytes (utf8 rest) := List.map_append
    cases starts : isStart c with
    | true =>
      have ascii := ascii_of_isStart starts
      have byte : c.val.toUInt8.toNat = c.toNat := (UInt32.toNat_toUInt8 c.val).trans
        (Nat.mod_eq_of_lt (Nat.lt_of_le_of_lt ascii (by decide)))
      have whole : ofBytes (String.utf8EncodeChar c) = [c] := by
        rw [String.utf8EncodeChar_eq_singleton (utf8Size_of_le ascii), ofBytes, List.map_singleton,
          byte, Char.ofNat_toNat]
      rw [split, whole, List.singleton_append, run, run, List.takeWhile_cons_of_pos starts,
        List.takeWhile_cons_of_pos starts]
      exact congrArg (c :: ·) ih
    | false =>
      obtain ⟨byte, more, bytes⟩ := List.exists_cons_of_length_pos
        (Nat.lt_of_lt_of_eq c.utf8Size_pos (String.length_utf8EncodeChar c).symm)
      -- A byte of a literal would be the whole character, and that starts no literal.
      have other : ¬ isStart (Char.ofNat byte.toNat) = true := by
        intro starts'
        have member := of_decide_eq_true ((isStart_ofNat byte).symm.trans starts')
        have small : ∀ byte ∈ literalBytes, byte.toNat < 128 := by simp [literalBytes]
        rw [← toNat_of_first_byte bytes (small byte member), Char.ofNat_toNat, starts] at starts'
        cases starts'
      rw [split, bytes]
      exact (List.takeWhile_cons_of_neg other).trans
        (List.takeWhile_cons_of_neg (Bool.eq_false_iff.mp starts)).symm

/-- The bytes of digits and points are those of the text that they are. -/
theorem utf8_ofBytes {bytes : List UInt8} (small : ∀ c ∈ ofBytes bytes, isStart c = true) :
    utf8 (ofBytes bytes) = bytes := by
  have single : ∀ byte ∈ literalBytes, String.utf8EncodeChar (Char.ofNat byte.toNat) = [byte] := by
    decide +kernel
  induction bytes with
  | nil => rfl
  | cons byte more ih =>
    obtain ⟨first, small⟩ := List.forall_mem_cons.mp small
    have member := of_decide_eq_true ((isStart_ofNat byte).symm.trans first)
    calc utf8 (ofBytes (byte :: more))
      _ = String.utf8EncodeChar (Char.ofNat byte.toNat) ++ utf8 (ofBytes more) := rfl
      _ = byte :: more := by rw [single byte member, ih small, List.singleton_append]

/-- Bytes are parsed like the text in which they are characters: what is cut off is a text. -/
theorem parseBytes_eq (bytes : List UInt8) : parseBytes bytes = parse (ofBytes bytes) := by
  unfold parseBytes parse
  cases reads : read (ofBytes bytes) with
  | error failure => rfl
  | ok result =>
    obtain ⟨numeral, rest⟩ := result
    obtain ⟨literal, split, -⟩ := read_eq_ok_iff.mp reads
    have cut : ofBytes (bytes.take numeral.chars.length) = numeral.chars := by
      rw [ofBytes, List.map_take, ← ofBytes, split, List.take_left]
    have small : ∀ c ∈ ofBytes (bytes.take numeral.chars.length), isStart c = true := by
      rw [cut]
      exact isStart_of_mem_chars literal
    have encoded : bytes.take numeral.chars.length = utf8 numeral.chars :=
      (utf8_ofBytes small).symm.trans (congrArg utf8 cut)
    have decoded : String.fromUTF8? (bytes.take numeral.chars.length).toByteArray =
        some (String.ofList numeral.chars) := by
      rw [encoded]
      exact dif_pos ⟨numeral.chars, rfl⟩
    dsimp only
    rw [decoded, Option.map_some, String.toList_ofList]

/-- A text and its bytes are parsed alike. -/
theorem parse_utf8 (starts : Scanner.startsLiteral text = true) :
    parseBytes (utf8 text) = parse text := by
  have split (text : List Char) : run text ++ text.dropWhile isStart = text :=
    List.takeWhile_append_dropWhile
  have same := (runForm_run starts).parse_eq
    (any_head?_dropWhile isStart (ofBytes (utf8 text))) (any_head?_dropWhile isStart text)
  rw [parseBytes_eq]
  rwa [← run_utf8, split, run_utf8, split] at same

end Numeral

end Calculator
