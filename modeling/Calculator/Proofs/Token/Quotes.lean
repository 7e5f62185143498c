import Calculator.Proofs.Token.Progress

/-! # What the faults in the words of an equation point at

A scan rejects a character that starts no token, and digits and points that are no literal. The
fault points at the characters that it quotes, and a fault between two neighbours at the space
between them, or at both of them with the space between.
-/

namespace Calculator

/-- What a scan says of a text that starts with no token, at its position and behind its last
lexeme. -/
inductive ScanFault.Rejects (position : Nat) (previous : Option Lexeme) :
    List Char → ScanFault → Prop
  | character (c : Char) (rest : List Char) :
    Rejects position previous (c :: rest)
      (.unexpectedCharacter c ⟨position, position + c.utf8Size⟩)
  | numeral (sign digits : List Char) (cause : NumeralFault) (length : Nat)
      (joins : sign = [] ∨ sign = ['-'] ∧ OperandFollows previous)
      (starts : Scanner.startsLiteral digits = true)
      (fails : Numeral.parse digits = .error (cause, length)) :
    Rejects position previous (sign ++ digits)
      (.malformedNumber (String.ofList (sign ++ digits.take length)) cause
        ⟨position, position + sign.length + length⟩)

namespace Scanner

variable {functions : Bool} {scanner after : Scanner} {position : Nat} {previous : Option Lexeme}
  {c : Char} {rest sign digits : List Char} {fault : ScanFault}

theorem rejects_of_literal (joins : sign = [] ∨ sign = ['-'] ∧ OperandFollows scanner.previous)
    (starts : startsLiteral digits = true)
    (fails : scanner.literal sign digits rest = (.error fault, after)) :
    fault.Rejects scanner.position scanner.previous (sign ++ digits) := by
  unfold literal at fails
  dsimp only at fails
  split at fails
  case h_1 => cases fails
  case h_2 cause length same =>
    cases fails
    exact .numeral sign digits cause length joins starts same

theorem rejects_of_item
    (fails : item functions ⟨position, c :: rest, previous⟩ c rest = (.error fault, after)) :
    fault.Rejects position previous (c :: rest) := by
  unfold item at fails
  split at fails
  case h_1 sign symbol =>
    obtain rfl := char_of_ofChar? symbol
    split at fails
    case isTrue joins =>
      simp only [Bool.and_eq_true, decide_eq_true_eq] at joins
      obtain ⟨⟨rfl, unary⟩, starts⟩ := joins
      exact rejects_of_literal (.inr ⟨rfl, minusIsUnary_iff.mp unary⟩) starts fails
    case isFalse => cases fails
  case h_2 =>
    split at fails
    case isTrue first =>
      have starts : startsLiteral (c :: rest) = true := first
      exact rejects_of_literal (.inl rfl) starts fails
    case isFalse =>
      split at fails
      case isTrue => cases fails
      case isFalse =>
        cases fails
        exact .character c rest

/-- A step that rejects passes over space and rejects what is left behind it. -/
theorem exists_rejects_of_next (fails : scanner.next functions = (some (.error fault), after)) :
    ∃ blanks text, scanner.rest = blanks ++ text ∧ (∀ c ∈ blanks, isSpace c = true) ∧
      fault.Rejects (scanner.position + blanks.length) scanner.previous text := by
  obtain ⟨blanks, c, rest, split, space, reads⟩ := exists_item_of_next fails
  exact ⟨blanks, c :: rest, split, space, rejects_of_item reads⟩

/-- What a scan rejects in one of its steps stands in the equation where the step starts, behind
space. -/
theorem exists_rejects_of_scan {equation : String} {steps : Nat}
    (fails : (scan functions equation)[steps]? = some (.error fault)) :
    ∃ before text, equation.toList = before ++ text ∧
      (∃ blanks, ((start equation).walk functions steps).rest = blanks ++ text ∧
        ∀ c ∈ blanks, isSpace c = true) ∧
      fault.Rejects (utf8 before).length ((start equation).walk functions steps).previous text := by
  have read := (items_getElem? functions (start equation) steps).symm.trans fails
  obtain ⟨before, whole, position⟩ := at_walk functions (at_start equation) steps
  obtain ⟨blanks, text, left, space, rejects⟩ := exists_rejects_of_next (Prod.ext read rfl)
  refine ⟨before ++ blanks, text, ?_, ⟨blanks, left, space⟩, ?_⟩
  · rw [whole, left, List.append_assoc]
  · rw [utf8_append, List.length_append, ← position,
      length_utf8 fun c member => ascii_of_isSpace (space c member)]
    exact rejects

end Scanner

/-- What is rejected as a literal covers the part of the equation that it quotes. -/
theorem covers_of_numeral {equation : String} {before sign digits : List Char}
    {previous : Option Lexeme} {cause : NumeralFault} {length : Nat}
    (whole : equation.toList = before ++ (sign ++ digits))
    (joins : sign = [] ∨ sign = ['-'] ∧ OperandFollows previous)
    (starts : Scanner.startsLiteral digits = true)
    (fails : Numeral.parse digits = .error (cause, length)) :
    Span.Covers ⟨(utf8 before).length, (utf8 before).length + sign.length + length⟩ equation
      before (sign ++ digits.take length) (digits.drop length) := by
  obtain ⟨run, behind, rfl, rfl, -, digits⟩ := Numeral.exists_run_of_error starts fails
  have small : ∀ c ∈ sign, c.toNat ≤ 127 := by
    rcases joins with rfl | ⟨rfl, -⟩
    · exact List.forall_mem_nil _
    · exact List.forall_mem_singleton.mpr (by decide)
  have ascii : ∀ c ∈ sign ++ run, c.toNat ≤ 127 :=
    List.forall_mem_append.mpr ⟨small, fun c member => ascii_of_isStart (digits c member)⟩
  rw [List.take_left, List.drop_left]
  refine ⟨?_, rfl, ?_⟩
  · rw [whole, List.append_assoc, List.append_assoc]
  · rw [utf8_append, List.length_append, length_utf8 ascii, List.length_append, Nat.add_assoc]

/-- A malformed literal that a scan reports in one of its steps. -/
structure MalformedIn (functions : Bool) (equation : String) (steps : Nat) (literal : String)
    (cause : NumeralFault) (span : Span) : Prop where
  /-- What is wrong with the digits is their points. -/
  reason : cause.reason = "second decimal point" ∨
    cause.reason = "expected digits after the decimal point"
  /-- There are digits, and where their points are right they say a number. -/
  dead : cause.reason ≠ "expected digits" ∧ cause.reason ≠ "failed to parse number literal"
  /-- It is the text in its span, which the parsing of the digits ends, and with a minus sign
  before them where an operand can start. -/
  slice : ∃ before blanks sign digits length,
    ((Scanner.start equation).walk functions steps).rest = blanks ++ (sign ++ digits) ∧
      (∀ c ∈ blanks, Scanner.isSpace c = true) ∧
      (sign = [] ∨ sign = ['-'] ∧
        OperandFollows ((Scanner.start equation).walk functions steps).previous) ∧
      Scanner.startsLiteral digits = true ∧ Numeral.parse digits = .error (cause, length) ∧
      literal.toList = sign ++ digits.take length ∧
      span.Covers equation before literal.toList (digits.drop length)

/-- A literal is parsed from digits and points if there is one point at most and it is not the last
of them. It takes them all, and they say a number. Of other runs the second point is reported, or
the only one. Texts and bytes are parsed alike. So a scan never misses the digits of a literal, nor
its number, and it quotes what is malformed. -/
theorem literal_grammar :
    (∀ bytes : List UInt8, bytes.head?.any (· ∈ Numeral.literalBytes) = true →
      Numeral.ParsesRun (Numeral.parseBytes bytes)
        (Numeral.ofBytes (bytes.takeWhile (· ∈ Numeral.literalBytes)))) ∧
    (∀ text, Scanner.startsLiteral text = true →
      Numeral.ParsesRun (Numeral.parse text) (Numeral.run text) ∧
      Numeral.parseBytes (utf8 text) = Numeral.parse text) ∧
    ∀ functions equation steps literal cause span,
      (scan functions equation)[steps]? = some (.error (.malformedNumber literal cause span)) →
        MalformedIn functions equation steps literal cause span := by
  refine ⟨fun bytes starts => ?_, fun text starts => ⟨Numeral.parsesRun starts,
    Numeral.parse_utf8 starts⟩, fun functions equation steps literal cause span fails => ?_⟩
  · rw [← Numeral.startsLiteral_ofBytes] at starts
    rw [← Numeral.run_ofBytes, Numeral.parseBytes_eq]
    exact Numeral.parsesRun starts
  · obtain ⟨before, text, whole, ⟨blanks, left, space⟩, rejects⟩ :=
      Scanner.exists_rejects_of_scan fails
    cases rejects with
    | numeral sign digits cause length joins starts failed =>
      have covers := covers_of_numeral whole joins starts failed
      have points := Numeral.cause_of_error starts failed
      refine ⟨?_, ?_, before, blanks, sign, digits, length, left, space, joins, starts, failed,
        String.toList_ofList, by rwa [String.toList_ofList]⟩
      · rcases points with rfl | rfl
        · exact .inl rfl
        · exact .inr rfl
      · rcases points with rfl | rfl <;> decide

/-- Bytes that are no text behind two points, bytes that are no text behind a literal, a point
without digits, and a literal with a minus sign behind a foreign character. -/
theorem literal_grammar_of_points :
    let bytes : List UInt8 := [0x31, 0x2E, 0x32, 0x2E, 0xFF]
    let more : List UInt8 := [0x31, 0x2E, 0x35, 0xFF]
    (bytes.head?.any (· ∈ Numeral.literalBytes) = true ∧
      Numeral.parseBytes bytes = .error (.secondPoint, 4) ∧
      Numeral.ParsesRun (Numeral.parseBytes bytes) ['1', '.', '2', '.']) ∧
    (more.head?.any (· ∈ Numeral.literalBytes) = true ∧
      Numeral.parseBytes more = .ok (1.5, 3) ∧
      Numeral.ParsesRun (Numeral.parseBytes more) ['1', '.', '5']) ∧
    (Scanner.startsLiteral ['5', '.', '+', '1'] = true ∧
      Numeral.ParsesRun (Numeral.parse ['5', '.', '+', '1']) ['5', '.']) ∧
    (scan true "é -1.2.3")[1]? = some (.error (.malformedNumber "-1.2." .secondPoint ⟨3, 8⟩)) ∧
      MalformedIn true "é -1.2.3" 1 "-1.2." .secondPoint ⟨3, 8⟩ := by
  intro bytes more
  obtain ⟨onBytes, onTexts, malformed⟩ := literal_grammar
  have first : bytes.head?.any (· ∈ Numeral.literalBytes) = true := by decide
  have first' : more.head?.any (· ∈ Numeral.literalBytes) = true := by decide
  have starts : Scanner.startsLiteral ['5', '.', '+', '1'] = true := by decide
  have found : (scan true "é -1.2.3")[1]? =
      some (.error (.malformedNumber "-1.2." .secondPoint ⟨3, 8⟩)) := by decide +kernel
  have run : Numeral.ofBytes (bytes.takeWhile (· ∈ Numeral.literalBytes)) =
      ['1', '.', '2', '.'] := by decide +kernel
  have run' : Numeral.ofBytes (more.takeWhile (· ∈ Numeral.literalBytes)) =
      ['1', '.', '5'] := by decide +kernel
  have fails : Numeral.parseBytes bytes = .error (.secondPoint, 4) := by decide +kernel
  have parses : Numeral.parseBytes more = .ok (1.5, 3) := by decide +kernel
  exact ⟨⟨first, fails, run ▸ onBytes bytes first⟩, ⟨first', parses, run' ▸ onBytes more first'⟩,
    ⟨starts, (onTexts _ starts).1⟩, found, malformed _ _ _ _ _ _ found⟩

/-- Whether a part of an equation is what a fault that points at it says of it. -/
def ScanFault.Quotes (slice : List Char) : ScanFault → Prop
  | inputTooLong .. => True
  | unexpectedCharacter character _ => slice = [character]
  | malformedNumber literal _ _ => slice = literal.toList
  | missingOperator .. => ∀ byte ∈ utf8 slice, byte ∈ blankBytes
  | consecutiveOperators first second _ =>
    ∃ between, slice = first.char :: (between ++ [second.char])

/-- Whether a fault points at a part of an equation of which it is true. -/
def ScanFault.PointsAt (equation : String) (fault : ScanFault) : Prop :=
  ∀ label, fault.label? = some label → ∃ before slice after,
    label.span.Covers equation before slice after ∧ fault.Quotes slice

variable {limits : Limits} {functions : Bool} {equation : String} {fault : ScanFault}
  {before after : Token} {earlier later tokens : List Token} {front text slice rest : List Char}
  {previous : Option Lexeme}

/-- What is rejected covers the characters that are quoted. -/
theorem ScanFault.Rejects.pointsAt (whole : equation.toList = front ++ text)
    (rejects : fault.Rejects (utf8 front).length previous text) : fault.PointsAt equation := by
  intro label same
  cases rejects with
  | character c rest =>
    cases same
    refine ⟨front, [c], rest, ⟨?_, rfl, ?_⟩, rfl⟩
    · rw [whole, List.append_assoc, List.singleton_append]
    · rw [utf8_append, List.length_append, utf8_cons, List.length_append,
        String.length_utf8EncodeChar]
      rfl
  | numeral sign digits cause length joins starts fails =>
    cases same
    exact ⟨front, _, _, covers_of_numeral whole joins starts fails, String.toList_ofList.symm⟩

namespace Token

/-- Tokens cannot be collected if one of the items is a fault, which then is the answer. -/
theorem mem_of_collect {items : List Item} (fails : collect items = .error fault) :
    .error fault ∈ items := by
  induction items with
  | nil => cases fails
  | cons item items ih =>
    cases item with
    | error first =>
      cases fails
      exact List.mem_cons_self ..
    | ok token =>
      refine List.mem_cons_of_mem _ (ih ?_)
      cases rest : collect items with
      | error later =>
        rw [collect, rest] at fails
        cases fails
        rfl
      | ok tokens =>
        rw [collect, rest] at fails
        cases fails

/-- The first clash is one of two neighbours. -/
theorem exists_clash (clashes : firstClash? tokens = some fault) :
    ∃ earlier before after later, tokens = earlier ++ before :: after :: later ∧
      clash? before after = some fault := by
  induction tokens with
  | nil => cases clashes
  | cons before rest ih =>
    cases rest with
    | nil => cases clashes
    | cons after later =>
      rw [firstClash?] at clashes
      rcases Option.or_eq_some_iff.mp clashes with here | ⟨-, there⟩
      · exact ⟨[], before, after, later, rfl, here⟩
      · obtain ⟨earlier, first, second, behind, same, clash⟩ := ih there
        exact ⟨before :: earlier, first, second, behind, congrArg (before :: ·) same, clash⟩

end Token

/-- Neighbours in a tokenization have nothing but space between them. -/
theorem MaximalMunch.neighbours
    (whole : MaximalMunch equation (earlier ++ before :: after :: later)) :
    ∃ front first between second back,
      before.span.Covers equation front first (between ++ (second ++ back)) ∧
      after.span.Covers equation (front ++ first ++ between) second back ∧
      (∀ c ∈ between, Scanner.isSpace c = true) ∧
      (∃ previous, before.lexeme.Munches previous first (between ++ (second ++ back))) ∧
      after.lexeme.Munches (some before.lexeme) second back := by
  obtain ⟨front, first, rest, covers, munches⟩ := whole.munched earlier before (after :: later) rfl
  obtain ⟨front', second, back, covers', munches'⟩ :=
    whole.munched (earlier ++ [before]) after later (List.append_cons ..)
  rw [List.getLast?_concat] at munches'
  obtain ⟨-, ordered, across⟩ := List.pairwise_append.mp whole.ordered
  obtain ⟨ahead, ordered⟩ := List.pairwise_cons.mp ordered
  obtain ⟨ahead', -⟩ := List.pairwise_cons.mp ordered
  have le : (utf8 (front ++ first)).length ≤ (utf8 front').length := by
    rw [← covers.stop, ← covers'.start]
    exact ahead after (List.mem_cons_self ..)
  -- The second span starts behind the first one, so the equation goes on between them.
  have same := covers.text.symm.trans covers'.text
  rw [List.append_assoc front'] at same
  obtain ⟨between, rfl, rfl⟩ := exists_append_of_length_utf8_le same le
  have split : equation.toList = front ++ first ++ between ++ (second ++ back) := by
    rw [covers'.text, List.append_assoc _ second]
  refine ⟨front, first, between, second, back, covers, covers', ?_, ⟨_, munches⟩, munches'⟩
  apply whole.isSpace_of_outside split
  rw [← covers.stop, ← covers'.start]
  intro token member
  rcases List.mem_append.mp member with member | member
  · have bound := across token member before (List.mem_cons_self ..)
    have some := whole.nonempty before (List.mem_append_right _ (List.mem_cons_self ..))
    exact .inl (by omega)
  rcases List.mem_cons.mp member with rfl | member
  · exact .inl (Nat.le_refl _)
  rcases List.mem_cons.mp member with rfl | member
  · exact .inr (Nat.le_refl _)
  · have bound := ahead' token member
    have some := whole.nonempty after
      (List.mem_append_right _ (List.mem_cons_of_mem _ (List.mem_cons_self ..)))
    exact .inr (by omega)

/-- A clash points at the space between two neighbours, or at both. -/
theorem MaximalMunch.pointsAt
    (whole : MaximalMunch equation (earlier ++ before :: after :: later))
    (clashes : Token.clash? before after = some fault) : fault.PointsAt equation := by
  obtain ⟨front, first, between, second, back, covers, covers', space, ⟨_, munches⟩, munches'⟩ :=
    whole.neighbours
  intro label same
  unfold Token.clash? at clashes
  split at clashes
  case isTrue =>
    cases clashes
    cases same
    refine ⟨front ++ first, between, second ++ back, ⟨?_, covers.stop, covers'.start⟩,
      fun byte member => ?_⟩
    · rw [covers'.text, List.append_assoc _ second]
    · obtain ⟨c, inside, bytes⟩ := List.mem_flatMap.mp member
      exact mem_blankBytes_of_isSpace (space c inside) bytes
  case isFalse =>
    split at clashes
    case h_1 sign sign' left right =>
      split at clashes
      case isTrue =>
        cases clashes
        cases same
        rw [left] at munches
        rw [right] at munches'
        obtain ⟨rfl, -⟩ := munches
        obtain ⟨rfl, -⟩ := munches'
        refine ⟨front, [sign.char] ++ between ++ [sign'.char], back, ⟨?_, covers.start, ?_⟩,
          between, rfl⟩
        · rw [covers'.text]
          simp only [List.append_assoc]
        · refine covers'.stop.trans ?_
          simp only [List.append_assoc]
      case isFalse => cases clashes
    case h_2 => cases clashes

/-- A fault in the words of an equation points at what it quotes. -/
theorem pointsAt_of_tokenize (fails : tokenize limits equation = .error fault) :
    fault.PointsAt equation := by
  unfold tokenize at fails
  split at fails
  case isTrue =>
    cases fails
    rintro label ⟨⟩
  case isFalse =>
    split at fails
    case h_1 found collected =>
      cases fails
      obtain ⟨steps, found⟩ := List.mem_iff_getElem?.mp (Token.mem_of_collect collected)
      obtain ⟨before, text, whole, -, rejects⟩ := Scanner.exists_rejects_of_scan found
      exact rejects.pointsAt whole
    case h_2 tokens collected =>
      split at fails
      case h_1 clash found =>
        cases fails
        have cut : Scanner.Cut limits.functions 0 none equation.toList tokens :=
          Scanner.cut_of_items (Token.collect_eq_ok_iff.mp collected)
        obtain ⟨earlier, before, after, later, rfl, clashes⟩ := Token.exists_clash found
        exact cut.maximalMunch.pointsAt clashes
      case h_2 => cases fails

end Calculator
