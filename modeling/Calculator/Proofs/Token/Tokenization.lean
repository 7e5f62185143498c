import Calculator.Proofs.Token.Munch

/-! # The tokens of an equation as a tokenization

What is asked of the tokens of an equation, without reference to how they are found: their spans
are parts of the equation in order, every part is what a scan takes off, and all bytes outside are
space. The tokens of an accepted equation have these properties, and no other tokens have them.
-/

namespace Calculator

/-- The bytes of a text in UTF-8. -/
def utf8 (text : List Char) : List UInt8 := text.flatMap String.utf8EncodeChar

/-- Tab, line feed, form feed, carriage return and space. -/
def blankBytes : List UInt8 := [0x09, 0x0A, 0x0C, 0x0D, 0x20]

/-- A span covers the part `slice` of an equation, from the end of `before` to the start of
`after`. -/
structure Span.Covers (span : Span) (equation : String) (before slice after : List Char) :
    Prop where
  text : equation.toList = before ++ slice ++ after
  start : span.start = (utf8 before).length
  stop : span.stop = (utf8 (before ++ slice)).length

/-- The tokens of an equation, where names and literals go on as long as they can. -/
structure MaximalMunch (equation : String) (tokens : List Token) : Prop where
  /-- No span is empty. -/
  nonempty : ∀ token ∈ tokens, token.span.start < token.span.stop
  /-- The spans are disjoint and in order. -/
  ordered : tokens.Pairwise fun token later => token.span.stop ≤ later.span.start
  /-- Every token says what stands in its span, behind the token before it. -/
  munched : ∀ earlier token later, tokens = earlier ++ token :: later →
    ∃ before slice after, token.span.Covers equation before slice after ∧
      token.lexeme.Munches (earlier.getLast?.map Token.lexeme) slice after
  /-- Outside the spans is nothing but space. -/
  blank : ∀ (offset : Nat) (byte : UInt8), (utf8 equation.toList)[offset]? = some byte →
    (∀ token ∈ tokens, ¬ (token.span.start ≤ offset ∧ offset < token.span.stop)) →
      byte ∈ blankBytes

variable {lexeme : Lexeme} {previous : Option Lexeme} {slice rest text : List Char}
  {position : Nat} {functions : Bool} {tokens : List Token} {equation : String} {limits : Limits}

theorem utf8_cons (c : Char) (rest : List Char) :
    utf8 (c :: rest) = String.utf8EncodeChar c ++ utf8 rest := rfl

theorem utf8_append (text rest : List Char) : utf8 (text ++ rest) = utf8 text ++ utf8 rest :=
  List.flatMap_append

theorem utf8Size_of_le {c : Char} (small : c.toNat ≤ 127) : c.utf8Size = 1 :=
  Char.utf8Size_eq_one_iff.mpr small

/-- Characters that are one byte each are as many as their bytes. -/
theorem length_utf8 (ascii : ∀ c ∈ text, c.toNat ≤ 127) : (utf8 text).length = text.length := by
  induction text with
  | nil => rfl
  | cons c rest ih =>
    obtain ⟨small, ascii⟩ := List.forall_mem_cons.mp ascii
    rw [utf8_cons, List.length_append, ih ascii, String.length_utf8EncodeChar, utf8Size_of_le small,
      List.length_cons, Nat.add_comm]

theorem ascii_of_isSpace {c : Char} (space : Scanner.isSpace c = true) : c.toNat ≤ 127 := by
  rcases Scanner.isSpace_cases space with rfl | rfl | rfl | rfl | rfl <;> decide

theorem ascii_of_isDigit {c : Char} (digit : c.isDigit = true) : c.toNat ≤ 127 := by
  simp only [Char.isDigit, Bool.and_eq_true, decide_eq_true_eq, UInt32.le_iff_toNat_le] at digit
  exact Nat.le_trans digit.2 (by decide)

theorem ascii_of_isAlpha {c : Char} (letter : c.isAlpha = true) : c.toNat ≤ 127 := by
  simp only [Char.isAlpha, Char.isUpper, Char.isLower, Bool.or_eq_true, Bool.and_eq_true,
    decide_eq_true_eq, UInt32.le_iff_toNat_le, ge_iff_le] at letter
  rcases letter with ⟨-, upper⟩ | ⟨-, lower⟩
  · exact Nat.le_trans upper (by decide)
  · exact Nat.le_trans lower (by decide)

theorem ascii_of_isStart {c : Char} (starts : Numeral.isStart c = true) : c.toNat ≤ 127 := by
  rcases Bool.or_eq_true_iff.mp starts with digit | point
  · exact ascii_of_isDigit digit
  · rw [of_decide_eq_true point]
    decide

/-- All the characters of a token are one byte each. -/
theorem Lexeme.Munches.ascii (munches : lexeme.Munches previous slice rest) :
    ∀ c ∈ slice, c.toNat ≤ 127 := by
  cases lexeme with
  | symbol sign =>
    obtain ⟨rfl, -⟩ := munches
    rw [List.forall_mem_singleton]
    cases sign <;> decide
  | function name =>
    obtain ⟨rfl, ⟨-, letters⟩, -⟩ := munches
    exact fun c member => ascii_of_isAlpha (letters c member)
  | number value =>
    obtain ⟨-, numeral, literal, ⟨rfl, -⟩ | ⟨-, rfl, -⟩⟩ := munches
    all_goals have digits := Numeral.isStart_of_mem_chars literal
    · exact fun c member => ascii_of_isStart (digits c member)
    · rw [List.forall_mem_cons]
      exact ⟨by decide, fun c member => ascii_of_isStart (digits c member)⟩

theorem mem_blankBytes_of_isSpace {c : Char} {byte : UInt8} (space : Scanner.isSpace c = true)
    (member : byte ∈ String.utf8EncodeChar c) : byte ∈ blankBytes := by
  rw [String.utf8EncodeChar_eq_singleton (utf8Size_of_le (ascii_of_isSpace space)),
    List.mem_singleton] at member
  subst member
  rcases Scanner.isSpace_cases space with rfl | rfl | rfl | rfl | rfl <;> decide

/-- A first byte below 128 is the whole character. -/
theorem toNat_of_first_byte {c : Char} {byte : UInt8} {more : List UInt8}
    (bytes : String.utf8EncodeChar c = byte :: more) (small : byte.toNat < 128) :
    c.toNat = byte.toNat := by
  have large : ∀ low high : UInt8, 128 ≤ high.toNat → low ||| high ≠ byte := by
    rintro low high bound rfl
    rw [UInt8.toNat_or] at small
    exact Nat.not_lt.mpr (Nat.le_trans bound Nat.right_le_or) small
  rcases c.utf8Size_eq with size | size | size | size
  · rw [String.utf8EncodeChar_eq_singleton size] at bytes
    injection bytes with first
    have ascii : c.toNat ≤ 127 := Char.utf8Size_eq_one_iff.mp size
    rw [← first, UInt32.toNat_toUInt8]
    exact (Nat.mod_eq_of_lt (Nat.lt_of_le_of_lt ascii (by decide))).symm
  · rw [String.utf8EncodeChar_eq_cons_cons size] at bytes
    injection bytes with first
    exact (large _ _ (by decide) first).elim
  · rw [String.utf8EncodeChar_eq_cons_cons_cons size] at bytes
    injection bytes with first
    exact (large _ _ (by decide) first).elim
  · rw [String.utf8EncodeChar_eq_cons_cons_cons_cons size] at bytes
    injection bytes with first
    exact (large _ _ (by decide) first).elim

/-- A character whose first byte is that of a space is a space. -/
theorem isSpace_of_mem_blankBytes {c : Char} {byte : UInt8} {more : List UInt8}
    (bytes : String.utf8EncodeChar c = byte :: more) (blank : byte ∈ blankBytes) :
    Scanner.isSpace c = true := by
  have small : ∀ byte ∈ blankBytes, byte.toNat < 128 := by simp [blankBytes]
  have spaces : ∀ byte ∈ blankBytes, Scanner.isSpace (Char.ofNat byte.toNat) = true := by
    decide +kernel
  rw [← Char.ofNat_toNat c, toNat_of_first_byte bytes (small byte blank)]
  exact spaces byte blank

namespace Scanner.Cut

theorem ahead (cut : Cut functions position previous text tokens) :
    ∀ token ∈ tokens, position ≤ token.span.start ∧ token.span.start < token.span.stop := by
  induction cut with
  | done => simp
  | token _ munches _ _ ih =>
    obtain ⟨first, more, rfl, -⟩ := exists_solid munches
    rw [List.forall_mem_cons]
    constructor
    · dsimp only
      rw [List.length_cons]
      omega
    · intro token member
      have bounds := ih token member
      omega

theorem ordered (cut : Cut functions position previous text tokens) :
    tokens.Pairwise fun token later => token.span.stop ≤ later.span.start := by
  induction cut with
  | done => exact .nil
  | token _ _ _ more ih =>
    apply List.Pairwise.cons _ ih
    intro later member
    exact (more.ahead later member).1

theorem munched (cut : Cut functions position previous text tokens) {earlier later : List Token}
    {token : Token} (split : tokens = earlier ++ token :: later) :
    ∃ before slice after, text = before ++ slice ++ after ∧
      token.span.start = position + (utf8 before).length ∧
      token.span.stop = position + (utf8 (before ++ slice)).length ∧
      token.lexeme.Munches ((earlier.getLast?.map Token.lexeme).or previous) slice after := by
  induction cut generalizing earlier with
  | done => simp at split
  | @token position previous blanks slice rest lexeme tokens space munches _ _ ih =>
    have spaces := length_utf8 fun c member => ascii_of_isSpace (space c member)
    have taken := length_utf8 munches.ascii
    cases earlier with
    | nil =>
      cases split
      refine ⟨blanks, slice, rest, rfl, ?_, ?_, munches⟩
      · rw [spaces]
      · rw [utf8_append, List.length_append, spaces, taken, Nat.add_assoc]
    | cons first earlier =>
      injection split with first split
      subst first
      obtain ⟨before, slice', after, rfl, start, stop, munches'⟩ := ih split
      refine ⟨blanks ++ slice ++ before, slice', after, by simp, ?_, ?_, ?_⟩
      · simp only [start, utf8_append, List.length_append, spaces, taken]
        omega
      · simp only [stop, utf8_append, List.length_append, spaces, taken]
        omega
      · rw [List.getLast?_cons]
        cases last : earlier.getLast? with
        | none =>
          rw [last] at munches'
          exact munches'
        | some token =>
          rw [last] at munches'
          exact munches'

theorem blank (cut : Cut functions position previous text tokens) {offset : Nat} {byte : UInt8}
    (here : (utf8 text)[offset]? = some byte)
    (outside : ∀ token ∈ tokens,
      ¬ (token.span.start ≤ position + offset ∧ position + offset < token.span.stop)) :
    byte ∈ blankBytes := by
  have spaces : ∀ {blanks : List Char}, (∀ c ∈ blanks, isSpace c = true) →
      ∀ byte ∈ utf8 blanks, byte ∈ blankBytes := by
    intro blanks space byte member
    obtain ⟨c, inside, bytes⟩ := List.mem_flatMap.mp member
    exact mem_blankBytes_of_isSpace (space c inside) bytes
  induction cut generalizing offset with
  | done space => exact spaces space byte (List.mem_of_getElem? here)
  | @token position previous blanks slice rest lexeme tokens space munches _ _ ih =>
    obtain ⟨notHere, outside⟩ := List.forall_mem_cons.mp outside
    have before := length_utf8 fun c member => ascii_of_isSpace (space c member)
    have taken := length_utf8 munches.ascii
    dsimp only at notHere
    rw [utf8_append, utf8_append, List.append_assoc] at here
    by_cases early : offset < (utf8 blanks).length
    · rw [List.getElem?_append_left early] at here
      exact spaces space byte (List.mem_of_getElem? here)
    rw [List.getElem?_append_right (Nat.le_of_not_lt early), List.getElem?_append_right (by omega),
      before, taken] at here
    apply ih here
    intro token member
    have same : position + blanks.length + slice.length + (offset - blanks.length - slice.length) =
        position + offset := by omega
    rw [same]
    exact outside token member

theorem maximalMunch (cut : Cut functions 0 none equation.toList tokens) :
    MaximalMunch equation tokens where
  nonempty token member := (cut.ahead token member).2
  ordered := cut.ordered
  munched earlier token later split := by
    obtain ⟨before, slice, after, text, start, stop, munches⟩ := cut.munched split
    rw [Nat.zero_add] at start stop
    rw [Option.or_none] at munches
    exact ⟨before, slice, after, ⟨text, start, stop⟩, munches⟩
  blank offset byte here outside := by
    apply cut.blank here
    rwa [Nat.zero_add]

end Scanner.Cut

theorem Lexeme.enabled_true : ∀ lexeme : Lexeme, lexeme.Enabled true
  | number _ | symbol _ => trivial
  | function _ => rfl

/-- Of two parts at the start of a text, the one with no more bytes is the start of the other. -/
theorem exists_append_of_length_utf8_le {before before' : List Char}
    (same : before ++ text = before' ++ rest)
    (le : (utf8 before).length ≤ (utf8 before').length) :
    ∃ between, before' = before ++ between ∧ text = between ++ rest := by
  rcases List.append_eq_append_iff.mp same with ⟨between, rfl, rfl⟩ | ⟨between, rfl, rfl⟩
  · exact ⟨between, rfl, rfl⟩
  · cases between with
    | nil => exact ⟨[], by simp⟩
    | cons c between =>
      have size := c.utf8Size_pos
      have bytes : (utf8 (before' ++ c :: between)).length =
          (utf8 before').length + (c.utf8Size + (utf8 between).length) := by
        rw [utf8_append, utf8_cons, List.length_append, List.length_append,
          String.length_utf8EncodeChar]
      omega

namespace MaximalMunch

/-- Between the spans is nothing but space. -/
theorem isSpace_of_outside (whole : MaximalMunch equation tokens) {front blanks back : List Char}
    (here : equation.toList = front ++ blanks ++ back)
    (outside : ∀ token ∈ tokens, token.span.stop ≤ (utf8 front).length ∨
      (utf8 (front ++ blanks)).length ≤ token.span.start) :
    ∀ c ∈ blanks, Scanner.isSpace c = true := by
  intro c member
  obtain ⟨near, far, rfl⟩ := List.append_of_mem member
  have size := c.utf8Size_pos
  rw [← String.length_utf8EncodeChar] at size
  obtain ⟨byte, more, bytes⟩ := List.exists_cons_of_length_pos size
  have first : (utf8 equation.toList)[(utf8 (front ++ near)).length]? = some byte := by
    have split : equation.toList = (front ++ near) ++ c :: (far ++ back) := by
      rw [here]
      simp
    rw [split, utf8_append, utf8_cons, bytes, List.getElem?_append_right (Nat.le_refl _),
      Nat.sub_self, List.cons_append, List.getElem?_cons_zero]
  refine isSpace_of_mem_blankBytes bytes (whole.blank _ byte first ?_)
  intro token member inside
  have bound := outside token member
  simp only [utf8_append, utf8_cons, List.length_append] at bound inside
  omega

/-- What is left of a tokenization, behind some of its tokens, is what a scan takes off there. -/
theorem cut_of_append (earlier : List Token) (front : List Char)
    (whole : MaximalMunch equation (earlier ++ tokens)) (split : equation.toList = front ++ text)
    (behind : ∀ token ∈ earlier, token.span.stop ≤ (utf8 front).length)
    (ahead : ∀ token ∈ tokens, (utf8 front).length ≤ token.span.start) :
    Scanner.Cut true (utf8 front).length (earlier.getLast?.map Token.lexeme) text tokens := by
  induction tokens generalizing earlier front text with
  | nil =>
    apply Scanner.Cut.done
    rw [List.append_nil] at whole
    rw [← List.append_nil text, ← List.append_assoc] at split
    exact whole.isSpace_of_outside split fun token member => .inl (behind token member)
  | cons token tokens ih =>
    obtain ⟨before, slice, after, ⟨same, start, stop⟩, munches⟩ :=
      whole.munched earlier token tokens rfl
    obtain ⟨-, ordered, -⟩ := List.pairwise_append.mp whole.ordered
    obtain ⟨later, -⟩ := List.pairwise_cons.mp ordered
    have le := ahead token (List.mem_cons_self ..)
    rw [start] at le
    have joined := same
    rw [split, List.append_assoc] at joined
    obtain ⟨blanks, rfl, rfl⟩ := exists_append_of_length_utf8_le joined le
    have grows : (utf8 (front ++ blanks)).length ≤ (utf8 (front ++ blanks ++ slice)).length := by
      rw [utf8_append (front ++ blanks), List.length_append]
      exact Nat.le_add_right ..
    have space : ∀ c ∈ blanks, Scanner.isSpace c = true := by
      rw [List.append_assoc] at same
      apply whole.isSpace_of_outside same
      intro other member
      rcases List.mem_append.mp member with member | member
      · exact .inl (behind other member)
      rcases List.mem_cons.mp member with rfl | member
      · exact .inr (Nat.le_of_eq start.symm)
      · have bound := later other member
        exact .inr (by omega)
    have more : Scanner.Cut true (utf8 (front ++ blanks ++ slice)).length
        ((earlier ++ [token]).getLast?.map Token.lexeme) after tokens := by
      apply ih _ _ _ same
      · intro other member
        rcases List.mem_append.mp member with member | member
        · have bound := behind other member
          omega
        · obtain rfl := List.mem_singleton.mp member
          exact Nat.le_of_eq stop
      · intro other member
        rw [← stop]
        exact later other member
      · rwa [List.append_assoc]
    have spaces := length_utf8 fun c member => ascii_of_isSpace (space c member)
    have taken := length_utf8 munches.ascii
    rw [List.getLast?_concat] at more
    obtain ⟨lexeme, start', stop'⟩ := token
    simp only [utf8_append, List.length_append, spaces, taken] at start stop more
    subst start stop
    rw [← List.append_assoc]
    exact .token space munches lexeme.enabled_true more

theorem cut (whole : MaximalMunch equation tokens) :
    Scanner.Cut true 0 none equation.toList tokens :=
  cut_of_append [] [] whole rfl (by simp) (by simp [utf8])

end MaximalMunch

theorem Scanner.Cut.enable (cut : Cut functions position previous text tokens) :
    Cut true position previous text tokens := by
  induction cut with
  | done space => exact .done space
  | @token _ _ _ _ _ lexeme _ space munches _ _ ih =>
    exact .token space munches lexeme.enabled_true ih

/-- The tokens of an equation are its tokenization, and it has no other. -/
theorem tokenize_maximalMunch (accepted : tokenize limits equation = .ok tokens) :
    MaximalMunch equation tokens ∧
      ∀ others, MaximalMunch equation others → others = tokens := by
  obtain ⟨-, scans, -⟩ := tokenize_eq_ok_iff.mp accepted
  have cut : Scanner.Cut limits.functions 0 none equation.toList tokens :=
    Scanner.cut_of_items scans
  exact ⟨cut.maximalMunch, fun others whole => whole.cut.unique cut.enable⟩

/-- The first minus sign of the equation belongs to a literal, the second one to none. -/
theorem tokenize_maximalMunch_of_two_signs :
    let tokens : List Token :=
      [⟨.number (-2), ⟨0, 2⟩⟩, ⟨.symbol .minus, ⟨3, 4⟩⟩, ⟨.number 1, ⟨4, 5⟩⟩]
    tokenize {} "-2 -1" = .ok tokens ∧ MaximalMunch "-2 -1" tokens ∧
      ∀ others, MaximalMunch "-2 -1" others → others = tokens := by
  intro tokens
  have accepted : tokenize {} "-2 -1" = .ok tokens := eq_ok_of_toOption (by decide +kernel)
  exact ⟨accepted, tokenize_maximalMunch accepted⟩

end Calculator
