import Calculator.Proofs.Token.Runs

/-! # A scan makes progress

A scan goes on behind its faults to the end of the equation. One step passes over space and takes
off one character at least; the part that its item is about starts there, at a character, and goes
at least as far as the step does. It may go further: behind a malformed literal the scan goes on
with its second character. Over a whole scan the parts therefore cover everything but space, and
none of them starts where another one does.
-/

namespace Calculator

/-- The part of an equation that an item is about. -/
def Item.span? : Item → Option Span
  | .ok token => some token.span
  | .error fault => fault.label?.map Label.span

theorem length_utf8_toList (text : String) :
    (utf8 text.toList).length = text.utf8ByteSize := by
  rw [← String.utf8Len_toList]
  induction text.toList with
  | nil => rfl
  | cons c rest ih =>
    rw [utf8_cons, List.length_append, String.length_utf8EncodeChar, ih, String.utf8Len_cons,
      Nat.add_comm]

theorem length_utf8_pos {text : List Char} (nonempty : text ≠ []) : 0 < (utf8 text).length := by
  obtain ⟨c, rest, rfl⟩ := List.exists_cons_of_ne_nil nonempty
  rw [utf8_cons, List.length_append, String.length_utf8EncodeChar]
  exact Nat.add_pos_left c.utf8Size_pos _

namespace Scanner

variable {functions : Bool} {scanner after : Scanner} {item : Item}

/-- A step from `scanner` to `after` passes over `blanks` and takes off `taken`; its item is about
what is taken and about `more`, which is left before `behind`. -/
structure Step (scanner : Scanner) (item : Item) (after : Scanner)
    (blanks taken more behind : List Char) : Prop where
  space : ∀ c ∈ blanks, isSpace c = true
  nonempty : taken ≠ []
  text : scanner.rest = blanks ++ (taken ++ (more ++ behind))
  left : after.rest = more ++ behind
  position : after.position = scanner.position + (utf8 (blanks ++ taken)).length
  span : item.span? = some ⟨scanner.position + (utf8 blanks).length,
    scanner.position + (utf8 (blanks ++ taken ++ more)).length⟩

section Items

variable {position : Nat} {previous : Option Lexeme} {c : Char} {rest : List Char}

/-- A token is about all that is taken off for it. -/
theorem step_accept {lexeme : Lexeme} {stop : Nat} {taken behind : List Char}
    (text : scanner.rest = taken ++ behind) (nonempty : taken ≠ [])
    (ascii : ∀ c ∈ taken, c.toNat ≤ 127) (stops : stop = scanner.position + taken.length) :
    Step scanner (scanner.accept lexeme stop behind).1 (scanner.accept lexeme stop behind).2
      [] taken [] behind := by
  have size := length_utf8 ascii
  refine ⟨List.forall_mem_nil _, nonempty, text, rfl, ?_, ?_⟩
  · rw [List.nil_append, size, ← stops]
    rfl
  · rw [List.nil_append, List.append_nil, size, ← stops]
    rfl

/-- A literal is read from its first character on. -/
theorem step_literal {sign digits : List Char} (cut : c :: rest = sign ++ digits)
    (ascii : ∀ c ∈ sign, c.toNat ≤ 127) (starts : startsLiteral digits = true) :
    ∃ taken more behind, Step ⟨position, c :: rest, previous⟩
      (literal ⟨position, c :: rest, previous⟩ sign digits rest).1
      (literal ⟨position, c :: rest, previous⟩ sign digits rest).2 [] taken more behind := by
  unfold literal
  dsimp only
  split
  case h_1 value length success =>
    obtain ⟨numeral, after, isLiteral, rfl, -, -, rfl⟩ := Numeral.parse_eq_ok_iff.mp success
    have small := Numeral.isStart_of_mem_chars isLiteral
    rw [List.drop_left]
    refine ⟨sign ++ numeral.chars, [], after, step_accept ?_ ?_ ?_ ?_⟩
    · rw [List.append_assoc]
      exact cut
    · exact List.append_ne_nil_of_right_ne_nil _ (Numeral.chars_ne_nil isLiteral)
    · exact List.forall_mem_append.mpr ⟨ascii, fun c member => ascii_of_isStart (small c member)⟩
    · rw [List.length_append, Nat.add_assoc]
  case h_2 cause length failed =>
    obtain ⟨run, behind, rfl, rfl, nonempty, small⟩ := Numeral.exists_run_of_error starts failed
    have small : ∀ c ∈ sign ++ run, c.toNat ≤ 127 :=
      List.forall_mem_append.mpr ⟨ascii, fun c member => ascii_of_isStart (small c member)⟩
    obtain ⟨first, more, same⟩ :=
      List.exists_cons_of_ne_nil (List.append_ne_nil_of_right_ne_nil sign nonempty)
    have long := congrArg List.length same
    rw [List.length_append] at long
    rw [same] at small
    rw [← List.append_assoc, same, List.cons_append] at cut
    obtain ⟨rfl, rfl⟩ := List.cons.inj cut
    have one : (utf8 [c]).length = 1 := length_utf8 fun c' member =>
      small c' (List.mem_cons.mpr (.inl (List.mem_singleton.mp member)))
    have size : (utf8 (c :: more)).length = sign.length + run.length :=
      (length_utf8 small).trans long.symm
    refine ⟨[c], more, behind, List.forall_mem_nil _, List.cons_ne_nil _ _, rfl, rfl, ?_, ?_⟩
    · exact congrArg (position + ·) one.symm
    · change some (Span.mk position (position + sign.length + run.length)) =
        some ⟨position + 0, position + (utf8 (c :: more)).length⟩
      rw [size, Nat.add_assoc, Nat.add_zero]

/-- One item is read from its first character on. -/
theorem step_item :
    ∃ taken more behind, Step ⟨position, c :: rest, previous⟩
      (Scanner.item functions ⟨position, c :: rest, previous⟩ c rest).1
      (Scanner.item functions ⟨position, c :: rest, previous⟩ c rest).2 [] taken more behind := by
  unfold Scanner.item
  split
  case h_1 sign symbol =>
    obtain rfl := char_of_ofChar? symbol
    have ascii : ∀ c ∈ [sign.char], c.toNat ≤ 127 := by
      rw [List.forall_mem_singleton]
      cases sign <;> decide
    split
    case isTrue joins =>
      simp only [Bool.and_eq_true] at joins
      exact step_literal rfl ascii joins.2
    case isFalse =>
      exact ⟨[sign.char], [], rest, step_accept rfl (List.cons_ne_nil _ _) ascii rfl⟩
  case h_2 notSymbol =>
    split
    case isTrue starts => exact step_literal rfl (List.forall_mem_nil _) starts
    case isFalse =>
      split
      case isTrue enabled =>
        have letters : ∀ c' ∈ c :: rest.takeWhile Char.isAlpha, c'.isAlpha = true :=
          List.forall_mem_cons.mpr ⟨(Bool.and_eq_true_iff.mp enabled).2,
            List.all_eq_true.mp List.all_takeWhile⟩
        refine ⟨c :: rest.takeWhile Char.isAlpha, [], rest.dropWhile Char.isAlpha,
          step_accept ?_ (List.cons_ne_nil _ _)
            (fun c' member => ascii_of_isAlpha (letters c' member)) rfl⟩
        rw [List.cons_append, List.takeWhile_append_dropWhile]
      case isFalse =>
        have size : (utf8 [c]).length = c.utf8Size := by
          rw [utf8_cons, List.length_append, String.length_utf8EncodeChar]
          rfl
        refine ⟨[c], [], rest, List.forall_mem_nil _, List.cons_ne_nil _ _, rfl, rfl, ?_, ?_⟩
        · exact congrArg (position + ·) size.symm
        · exact congrArg (fun size => some (Span.mk position (position + size))) size.symm

/-- A step is the same behind space, which it passes over. -/
theorem Step.behind_space {text blanks taken more behind : List Char}
    (step : Step ⟨position + blanks.length, text, previous⟩ item after [] taken more behind)
    (space : ∀ c ∈ blanks, isSpace c = true) :
    Step ⟨position, blanks ++ text, previous⟩ item after blanks taken more behind := by
  have size := length_utf8 fun c member => ascii_of_isSpace (space c member)
  have none : (utf8 []).length = 0 := rfl
  obtain ⟨-, nonempty, same, left, stop, span⟩ := step
  simp only [List.nil_append, none, Nat.add_zero] at same stop span
  refine ⟨space, nonempty, congrArg (blanks ++ ·) same, left, ?_, ?_⟩
  · rw [stop, utf8_append, List.length_append, size, Nat.add_assoc]
  · rw [span, List.append_assoc, utf8_append blanks, List.length_append, size, Nat.add_assoc]

end Items

/-- A step that reads an item passes over space and takes off what starts the item. -/
theorem exists_step (read : scanner.next functions = (some item, after)) :
    ∃ blanks taken more behind, Step scanner item after blanks taken more behind := by
  obtain ⟨position, text, previous⟩ := scanner
  obtain ⟨blanks, c, rest, same, space, reads⟩ := exists_item_of_next read
  dsimp only at same
  subst same
  obtain ⟨taken, more, behind, step⟩ := step_item
  rw [reads] at step
  exact ⟨blanks, taken, more, behind, step.behind_space space⟩

/-- A step that reads no item has passed over space to the end. -/
theorem next_end (ends : scanner.next functions = (none, after)) :
    (∀ c ∈ scanner.rest, isSpace c = true) ∧ after.rest = [] ∧
      after.position = scanner.position + (utf8 scanner.rest).length := by
  obtain ⟨position, text, previous⟩ := scanner
  have space := space_of_next ends
  cases ends.symm.trans (next_eq_none space)
  rw [length_utf8 fun c member => ascii_of_isSpace (space c member)]
  exact ⟨space, rfl, rfl⟩

variable {equation : String} {blanks taken more behind : List Char}

/-- The position of a scan is where what is left starts in the equation. -/
def At (equation : String) (scanner : Scanner) : Prop :=
  ∃ before, equation.toList = before ++ scanner.rest ∧ scanner.position = (utf8 before).length

theorem at_start (equation : String) : At equation (start equation) := ⟨[], rfl, rfl⟩

theorem Step.at (step : Step scanner item after blanks taken more behind)
    (here : At equation scanner) : At equation after := by
  obtain ⟨before, text, position⟩ := here
  refine ⟨before ++ (blanks ++ taken), ?_, ?_⟩
  · rw [text, step.text, step.left]
    simp only [List.append_assoc]
  · rw [step.position, position, utf8_append before, List.length_append]

theorem at_end (here : At equation scanner) (ends : scanner.next functions = (none, after)) :
    At equation after ∧ after.position = equation.utf8ByteSize := by
  obtain ⟨before, text, position⟩ := here
  obtain ⟨-, left, stop⟩ := next_end ends
  have size : after.position = (utf8 equation.toList).length := by
    rw [stop, position, text, utf8_append, List.length_append]
  exact ⟨⟨equation.toList, by rw [left, List.append_nil], size⟩, by rw [size, length_utf8_toList]⟩

/-- An item is about a part of the equation, which starts with the step and holds all it takes. -/
theorem Step.exists_covers (step : Step scanner item after blanks taken more behind)
    (here : At equation scanner) :
    ∃ span before slice rest, item.span? = some span ∧ span.Covers equation before slice rest ∧
      scanner.position ≤ span.start ∧ span.start < after.position ∧ after.position ≤ span.stop := by
  obtain ⟨before, text, position⟩ := here
  have grows := length_utf8_pos step.nonempty
  have stop := step.position
  refine ⟨_, before ++ blanks, taken ++ more, behind, step.span, ⟨?_, ?_, ?_⟩, ?_, ?_, ?_⟩
  · rw [text, step.text]
    simp only [List.append_assoc]
  · change scanner.position + (utf8 blanks).length = _
    rw [position, utf8_append, List.length_append]
  · simp only [position, utf8_append, List.length_append]
    omega
  · exact Nat.le_add_right _ _
  · simp only [utf8_append, List.length_append] at stop ⊢
    omega
  · simp only [utf8_append, List.length_append] at stop ⊢
    omega

/-- The scanner after as many steps. -/
def walk (functions : Bool) (scanner : Scanner) (steps : Nat) : Scanner :=
  (fun scanner => (scanner.next functions).2)^[steps] scanner

theorem walk_succ (functions : Bool) (scanner : Scanner) (steps : Nat) :
    scanner.walk functions (steps + 1) = ((scanner.walk functions steps).next functions).2 :=
  Function.iterate_succ_apply' ..

theorem walk_next (functions : Bool) (scanner : Scanner) (steps : Nat) :
    scanner.walk functions (steps + 1) = (scanner.next functions).2.walk functions steps :=
  Function.iterate_succ_apply ..

theorem walk_add (functions : Bool) (scanner : Scanner) (steps more : Nat) :
    scanner.walk functions (steps + more) = (scanner.walk functions steps).walk functions more := by
  rw [Nat.add_comm]
  exact Function.iterate_add_apply ..

theorem at_walk (functions : Bool) (here : At equation scanner) (steps : Nat) :
    At equation (scanner.walk functions steps) := by
  induction steps with
  | zero => exact here
  | succ steps ih =>
    rw [walk_succ]
    cases read : (scanner.walk functions steps).next functions with
    | mk item after =>
      cases item with
      | none => exact (at_end ih read).1
      | some item =>
        obtain ⟨blanks, taken, more, behind, step⟩ := exists_step read
        exact step.at ih

/-- The end of a scan is its end for good. -/
theorem walk_end (ends : (scanner.next functions).1 = none) (steps : Nat) :
    ((scanner.walk functions steps).next functions).1 = none := by
  induction steps generalizing scanner with
  | zero => exact ends
  | succ steps ih =>
    rw [walk_next]
    apply ih
    cases read : scanner.next functions with
    | mk item after =>
      rw [read] at ends
      cases ends
      obtain ⟨-, left, -⟩ := next_end read
      obtain ⟨position, text, previous⟩ := after
      cases left
      rw [next_eq_none (List.forall_mem_nil _)]

/-- The items of a scan are what its steps read, in their order. -/
theorem items_getElem? (functions : Bool) (scanner : Scanner) (steps : Nat) :
    (scanner.items functions)[steps]? = ((scanner.walk functions steps).next functions).1 := by
  induction steps generalizing scanner with
  | zero =>
    cases read : scanner.next functions with
    | mk item after =>
      cases item with
      | none =>
        rw [items_of_end read]
        exact (congrArg Prod.fst read).symm
      | some item =>
        rw [items_of_next read]
        exact (congrArg Prod.fst read).symm
  | succ steps ih =>
    cases read : scanner.next functions with
    | mk item after =>
      cases item with
      | none =>
        rw [items_of_end read, walk_end (congrArg Prod.fst read)]
        rfl
      | some item =>
        rw [items_of_next read, walk_next, read]
        exact ih after

theorem le_start_of_items (functions : Bool) (scanner : Scanner) :
    ∀ item ∈ scanner.items functions, ∀ span, item.span? = some span →
      scanner.position ≤ span.start := by
  induction scanner using items.induct functions with
  | case1 scanner after ends =>
    rw [items_of_end ends]
    exact List.forall_mem_nil _
  | case2 scanner item after read ih =>
    obtain ⟨blanks, taken, more, behind, step⟩ := exists_step read
    rw [items_of_next read]
    refine List.forall_mem_cons.mpr ⟨fun span same => ?_, fun later member span same => ?_⟩
    · cases step.span.symm.trans same
      exact Nat.le_add_right _ _
    · refine Nat.le_trans ?_ (ih later member span same)
      rw [step.position]
      exact Nat.le_add_right _ _

/-- No item starts where an earlier one does. -/
theorem items_increasing (functions : Bool) (scanner : Scanner) :
    (scanner.items functions).Pairwise fun item later => ∀ span span',
      item.span? = some span → later.span? = some span' → span.start < span'.start := by
  induction scanner using items.induct functions with
  | case1 scanner after ends =>
    rw [items_of_end ends]
    exact .nil
  | case2 scanner item after read ih =>
    obtain ⟨blanks, taken, more, behind, step⟩ := exists_step read
    rw [items_of_next read]
    refine .cons (fun later member span span' same same' => ?_) ih
    have next := le_start_of_items functions after later member span' same'
    have grows := length_utf8_pos step.nonempty
    have position := step.position
    rw [utf8_append, List.length_append] at position
    cases step.span.symm.trans same
    dsimp only
    omega

/-- There are no more items than bytes. -/
theorem length_items_le (functions : Bool) (scanner : Scanner) :
    (scanner.items functions).length ≤ (utf8 scanner.rest).length := by
  induction scanner using items.induct functions with
  | case1 scanner after ends =>
    rw [items_of_end ends]
    exact Nat.zero_le _
  | case2 scanner item after read ih =>
    obtain ⟨blanks, taken, more, behind, step⟩ := exists_step read
    have grows := length_utf8_pos step.nonempty
    rw [step.left] at ih
    rw [items_of_next read, step.text, List.length_cons]
    simp only [utf8_append, List.length_append] at ih ⊢
    omega

/-- Every byte but those of space lies in an item. -/
theorem covered (functions : Bool) (scanner : Scanner) {offset : Nat} {byte : UInt8}
    (here : (utf8 scanner.rest)[offset]? = some byte) (visible : byte ∉ blankBytes) :
    ∃ item ∈ scanner.items functions, ∃ span, item.span? = some span ∧
      span.start ≤ scanner.position + offset ∧ scanner.position + offset < span.stop := by
  induction scanner using items.induct functions generalizing offset with
  | case1 scanner after ends =>
    obtain ⟨c, inside, bytes⟩ := List.mem_flatMap.mp (List.mem_of_getElem? here)
    exact absurd (mem_blankBytes_of_isSpace ((next_end ends).1 c inside) bytes) visible
  | case2 scanner item after read ih =>
    obtain ⟨blanks, taken, more, behind, step⟩ := exists_step read
    have position := step.position
    rw [items_of_next read]
    rw [step.text, ← List.append_assoc, utf8_append] at here
    rcases Nat.lt_or_ge offset (utf8 (blanks ++ taken)).length with early | late
    · refine ⟨item, List.mem_cons_self .., _, step.span, ?_, ?_⟩
      · refine Nat.add_le_add_left (Nat.le_of_not_lt fun before => ?_) _
        rw [List.getElem?_append_left early, utf8_append, List.getElem?_append_left before] at here
        obtain ⟨c, inside, bytes⟩ := List.mem_flatMap.mp (List.mem_of_getElem? here)
        exact visible (mem_blankBytes_of_isSpace (step.space c inside) bytes)
      · rw [utf8_append (blanks ++ taken), List.length_append]
        dsimp only
        omega
    · rw [List.getElem?_append_right late, ← step.left] at here
      obtain ⟨later, member, span, same, start, stop⟩ := ih here
      refine ⟨later, List.mem_cons_of_mem _ member, span, same, ?_, ?_⟩
      · omega
      · omega

end Scanner

open Scanner

/-- How a scan that goes on behind its faults comes through an equation. -/
structure Progress (functions : Bool) (equation : String) : Prop where
  /-- The items are what one step after the other reads. -/
  items : ∀ steps, (scan functions equation)[steps]? =
    (((start equation).walk functions steps).next functions).1
  /-- Every position is the start of a character, or the end. -/
  boundary : ∀ steps, ∃ before,
    equation.toList = before ++ ((start equation).walk functions steps).rest ∧
      ((start equation).walk functions steps).position = (utf8 before).length
  /-- A step that reads an item goes on, but not beyond the part that the item is about; that part
  starts with the step and is cut between characters. -/
  advances : ∀ steps item, (((start equation).walk functions steps).next functions).1 = some item →
    ∃ span before slice rest, item.span? = some span ∧ span.Covers equation before slice rest ∧
      ((start equation).walk functions steps).position ≤ span.start ∧
      span.start < ((start equation).walk functions (steps + 1)).position ∧
      ((start equation).walk functions (steps + 1)).position ≤ span.stop
  /-- A step that reads no item comes to the end, and so does every later one. -/
  ends : ∀ steps, (((start equation).walk functions steps).next functions).1 = none →
    ((start equation).walk functions (steps + 1)).rest = [] ∧
      ((start equation).walk functions (steps + 1)).position = equation.utf8ByteSize ∧
      ∀ more, (((start equation).walk functions (steps + more)).next functions).1 = none
  /-- No item starts where an earlier one does. -/
  increasing : (scan functions equation).Pairwise fun item later => ∀ span span',
    item.span? = some span → later.span? = some span' → span.start < span'.start
  /-- There are no more items than bytes. -/
  short : (scan functions equation).length ≤ equation.utf8ByteSize
  /-- Every byte but those of space lies in an item. -/
  covered : ∀ (offset : Nat) (byte : UInt8), (utf8 equation.toList)[offset]? = some byte →
    byte ∉ blankBytes → ∃ item ∈ scan functions equation, ∃ span, item.span? = some span ∧
      span.start ≤ offset ∧ offset < span.stop

/-- Whatever an equation says, its scan makes progress. -/
theorem scan_progress (functions : Bool) (equation : String) : Progress functions equation where
  items := items_getElem? functions (start equation)
  boundary := at_walk functions (at_start equation)
  advances steps item read := by
    obtain ⟨blanks, taken, more, behind, step⟩ := exists_step (Prod.ext read rfl)
    rw [walk_succ]
    exact step.exists_covers (at_walk functions (at_start equation) steps)
  ends steps ended := by
    have here := at_walk functions (at_start equation) steps
    refine ⟨?_, ?_, fun more => ?_⟩
    · rw [walk_succ]
      exact (next_end (Prod.ext_iff.mpr ⟨ended, rfl⟩)).2.1
    · rw [walk_succ]
      exact (at_end here (Prod.ext_iff.mpr ⟨ended, rfl⟩)).2
    · rw [walk_add]
      exact walk_end ended more
  increasing := items_increasing functions (start equation)
  short := by
    rw [← length_utf8_toList]
    exact length_items_le functions (start equation)
  covered offset byte here visible := by
    have held := Scanner.covered functions (start equation) here visible
    rwa [show (start equation).position + offset = offset from Nat.zero_add offset] at held

example : (scan true "1.2.3 é").map Item.span? =
    [some ⟨0, 4⟩, some ⟨1, 4⟩, some ⟨2, 5⟩, some ⟨6, 8⟩] := by decide +kernel

end Calculator
