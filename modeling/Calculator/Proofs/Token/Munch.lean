import Calculator.Proofs.Token.Literal
import Calculator.Proofs.Token.Tokenize

/-! # What a scan takes off a text

One step of a scan passes over space and takes off a token: a symbol, a name, or a literal, with a
minus sign before it where an operand can start. Names and literals are taken off as long as they
go on. `exists_munches_of_next` and `next_eq_of_munches` say that a step does this and nothing else,
`cut_of_items` and `items_of_cut` that a scan without faults cuts its text into tokens in this way,
with space between them.
-/

namespace Calculator

/-- Whether an operand can start behind a lexeme: at the start of an equation, and behind every
symbol but a closing parenthesis. -/
def OperandFollows : Option Lexeme → Prop
  | none => True
  | some (.symbol sign) => sign ≠ .closeParen
  | some _ => False

/-- Whether a lexeme is what a scan takes off a text as `slice`, before `rest`. -/
def Lexeme.Munches (previous : Option Lexeme) (slice rest : List Char) : Lexeme → Prop
  | symbol sign => slice = [sign.char] ∧
    (sign = .minus → OperandFollows previous → Scanner.startsLiteral rest = false)
  | function name => slice = name.toList ∧ IsName name ∧ rest.head?.any Char.isAlpha = false
  | number value => Scanner.startsLiteral rest = false ∧ ∃ numeral : Numeral, numeral.IsLiteral ∧
    (slice = numeral.chars ∧ value = numeral.value ∨
      OperandFollows previous ∧ slice = '-' :: numeral.chars ∧ value = -numeral.value)

/-- Whether a lexeme may be read: names only if functions are enabled. -/
def Lexeme.Enabled (functions : Bool) : Lexeme → Prop
  | function _ => functions = true
  | _ => True

namespace Scanner

variable {functions : Bool} {scanner after : Scanner} {lexeme : Lexeme} {position stop : Nat}
  {c : Char} {slice blanks rest text : List Char} {previous : Option Lexeme} {token : Token}

theorem minusIsUnary_iff : scanner.minusIsUnary = true ↔ OperandFollows scanner.previous := by
  obtain ⟨position, rest, _ | value | sign | name⟩ := scanner <;>
    simp [minusIsUnary, OperandFollows]

theorem isSpace_char (sign : Symbol) : isSpace sign.char = false := by
  cases sign <;> decide

theorem char_of_ofChar? {sign : Symbol} (symbol : Symbol.ofChar? c = some sign) :
    c = sign.char := by
  unfold Symbol.ofChar? at symbol
  split at symbol <;> cases symbol <;> rfl

theorem ofChar?_eq_none (other : ∀ sign : Symbol, c ≠ sign.char) : Symbol.ofChar? c = none := by
  cases symbol : Symbol.ofChar? c with
  | none => rfl
  | some sign => exact (other sign (char_of_ofChar? symbol)).elim

theorem isSpace_cases (space : isSpace c = true) :
    c = ' ' ∨ c = '\t' ∨ c = '\n' ∨ c = '\x0c' ∨ c = '\r' := by
  simp only [isSpace, Bool.or_eq_true, decide_eq_true_eq] at space
  rcases space with (((rfl | rfl) | rfl) | feed) | rfl
  · exact .inl rfl
  · exact .inr (.inl rfl)
  · exact .inr (.inr (.inl rfl))
  · exact .inr (.inr (.inr (.inl (Char.toNat_inj.mp feed))))
  · exact .inr (.inr (.inr (.inr rfl)))

/-- A literal starts neither like a symbol nor like space. -/
theorem solid_of_isStart (starts : Numeral.isStart c = true) :
    Symbol.ofChar? c = none ∧ isSpace c = false := by
  refine ⟨ofChar?_eq_none ?_, Bool.eq_false_iff.mpr fun space => ?_⟩
  · rintro sign rfl
    revert starts
    cases sign <;> decide
  · rcases isSpace_cases space with rfl | rfl | rfl | rfl | rfl <;> revert starts <;> decide

/-- A name starts neither like a symbol, nor like space, nor like a literal. -/
theorem solid_of_isAlpha (letter : c.isAlpha = true) :
    Symbol.ofChar? c = none ∧ isSpace c = false ∧ Numeral.isStart c = false := by
  refine ⟨ofChar?_eq_none ?_, Bool.eq_false_iff.mpr fun space => ?_, ?_⟩
  · rintro sign rfl
    revert letter
    cases sign <;> decide
  · rcases isSpace_cases space with rfl | rfl | rfl | rfl | rfl <;> revert letter <;> decide
  · exact Numeral.isStart_of_isAlpha letter

/-- What is taken off a text starts with no space. -/
theorem exists_solid (munches : lexeme.Munches previous slice rest) :
    ∃ first more, slice = first :: more ∧ isSpace first = false := by
  cases lexeme with
  | symbol sign =>
    obtain ⟨rfl, -⟩ := munches
    exact ⟨sign.char, [], rfl, isSpace_char sign⟩
  | function name =>
    obtain ⟨rfl, ⟨nonempty, letters⟩, -⟩ := munches
    obtain ⟨first, more, same⟩ := List.exists_cons_of_ne_nil nonempty
    rw [same] at letters
    exact ⟨first, more, same, (solid_of_isAlpha (letters first (List.mem_cons_self ..))).2.1⟩
  | number value =>
    obtain ⟨-, numeral, literal, ⟨rfl, -⟩ | ⟨-, rfl, -⟩⟩ := munches
    · obtain ⟨first, more, same, starts⟩ := Numeral.exists_start literal
      exact ⟨first, more, same, (solid_of_isStart starts).2⟩
    · exact ⟨'-', numeral.chars, rfl, by decide⟩

theorem literal_eq_accept {numeral : Numeral} {other : List Char} (isLiteral : numeral.IsLiteral)
    (sign : List Char) (apart : startsLiteral rest = false) :
    scanner.literal sign (numeral.chars ++ rest) other =
      scanner.accept (.number (if sign.isEmpty then numeral.value else -numeral.value))
        (scanner.position + sign.length + numeral.chars.length) rest := by
  have parses : Numeral.parse (numeral.chars ++ rest) =
      .ok (numeral.value, numeral.chars.length) :=
    Numeral.parse_eq_ok_iff.mpr ⟨numeral, rest, isLiteral, rfl, apart, rfl, rfl⟩
  simp only [Scanner.literal, parses, List.drop_left]

theorem literal_eq_ok_iff {sign digits text : List Char} :
    scanner.literal sign digits text = (.ok token, after) ↔
      ∃ numeral : Numeral, numeral.IsLiteral ∧ digits = numeral.chars ++ after.rest ∧
        startsLiteral after.rest = false ∧
        scanner.accept (.number (if sign.isEmpty then numeral.value else -numeral.value))
          (scanner.position + sign.length + numeral.chars.length) after.rest =
            (.ok token, after) := by
  unfold literal
  dsimp only
  constructor
  · intro reads
    split at reads
    case h_1 value length success =>
      obtain ⟨numeral, rest, literal, rfl, apart, rfl, rfl⟩ := Numeral.parse_eq_ok_iff.mp success
      rw [List.drop_left] at reads
      cases reads
      exact ⟨numeral, literal, rfl, apart, rfl⟩
    case h_2 => cases reads
  · rintro ⟨numeral, isLiteral, rfl, apart, accepts⟩
    rw [← accepts, ← literal_eq_accept isLiteral sign apart]
    rfl

/-- A token that is read is taken off the text. -/
theorem exists_munches_of_item
    (reads : item functions ⟨position, c :: rest, previous⟩ c rest = (.ok token, after)) :
    ∃ slice behind lexeme, c :: rest = slice ++ behind ∧ lexeme.Munches previous slice behind ∧
      lexeme.Enabled functions ∧
      accept ⟨position, c :: rest, previous⟩ lexeme (position + slice.length) behind =
        (.ok token, after) := by
  unfold item at reads
  split at reads
  case h_1 sign symbol =>
    obtain rfl := char_of_ofChar? symbol
    split at reads
    case isTrue signs =>
      simp only [Bool.and_eq_true, decide_eq_true_eq] at signs
      obtain ⟨⟨rfl, unary⟩, -⟩ := signs
      obtain ⟨numeral, literal, split, apart, accepts⟩ := literal_eq_ok_iff.mp reads
      have follows := minusIsUnary_iff.mp unary
      refine ⟨'-' :: numeral.chars, after.rest, .number (-numeral.value),
        congrArg (Symbol.char .minus :: ·) split,
        ⟨apart, numeral, literal, .inr ⟨follows, rfl, rfl⟩⟩, trivial, ?_⟩
      rwa [List.length_cons, Nat.add_comm numeral.chars.length, ← Nat.add_assoc]
    case isFalse alone =>
      refine ⟨[sign.char], rest, .symbol sign, rfl, ⟨rfl, ?_⟩, trivial, reads⟩
      rintro rfl follows
      simpa [minusIsUnary_iff, follows] using alone
  case h_2 notSymbol =>
    split at reads
    case isTrue starts =>
      obtain ⟨numeral, literal, split, apart, accepts⟩ := literal_eq_ok_iff.mp reads
      exact ⟨numeral.chars, after.rest, .number numeral.value, split,
        ⟨apart, numeral, literal, .inl ⟨rfl, rfl⟩⟩, trivial, accepts⟩
    case isFalse =>
      split at reads
      case isTrue enabled =>
        obtain ⟨enabled, letter⟩ := Bool.and_eq_true_iff.mp enabled
        have letters := List.all_eq_true.mp (List.all_takeWhile (p := Char.isAlpha) (l := rest))
        refine ⟨c :: rest.takeWhile Char.isAlpha, rest.dropWhile Char.isAlpha,
          .function (String.ofList (c :: rest.takeWhile Char.isAlpha)), ?_,
          ⟨String.toList_ofList.symm, ?_, any_head?_dropWhile Char.isAlpha rest⟩, enabled, reads⟩
        · rw [List.cons_append, List.takeWhile_append_dropWhile]
        · rw [IsName, String.toList_ofList]
          exact ⟨List.cons_ne_nil _ _, List.forall_mem_cons.mpr ⟨letter, letters⟩⟩
      case isFalse => cases reads

/-- What is taken off a text is read as a token. -/
theorem item_eq_accept (split : c :: rest = slice ++ text)
    (munches : lexeme.Munches previous slice text) (enabled : lexeme.Enabled functions) :
    item functions ⟨position, c :: rest, previous⟩ c rest =
      accept ⟨position, c :: rest, previous⟩ lexeme (position + slice.length) text := by
  cases lexeme with
  | symbol sign =>
    obtain ⟨rfl, alone⟩ := munches
    injection split with first behind
    subst first behind
    unfold item
    rw [Symbol.ofChar?_char]
    dsimp only
    rw [if_neg]
    · rfl
    · simp only [Bool.and_eq_true, decide_eq_true_eq, minusIsUnary_iff]
      rintro ⟨⟨minus, follows⟩, starts⟩
      rw [alone minus follows] at starts
      cases starts
  | function name =>
    obtain ⟨rfl, ⟨nonempty, letters⟩, ends⟩ := munches
    obtain ⟨first, more, same⟩ := List.exists_cons_of_ne_nil nonempty
    rw [same] at letters split
    injection split with head tail
    subst head tail
    obtain ⟨letter, letters⟩ := List.forall_mem_cons.mp letters
    obtain ⟨notSymbol, -, notNumber⟩ := solid_of_isAlpha letter
    obtain ⟨taken, left⟩ := span_append letters ends
    have enabled : functions = true := enabled
    have whole : String.ofList (c :: more) = name := by rw [← same, String.ofList_toList]
    simp only [item, notSymbol, notNumber, letter, taken, left, enabled, whole, same,
      List.append_eq, Bool.and_self, Bool.false_eq_true, ↓reduceIte]
  | number value =>
    obtain ⟨apart, numeral, literal, ⟨rfl, rfl⟩ | ⟨follows, rfl, rfl⟩⟩ := munches
    · obtain ⟨first, more, chars, starts⟩ := Numeral.exists_start literal
      have head : c = first := by
        rw [chars] at split
        exact (List.cons.inj split).1
      obtain ⟨notSymbol, -⟩ := solid_of_isStart starts
      subst head
      simp only [item, notSymbol, starts, split, ↓reduceIte]
      exact literal_eq_accept literal [] apart
    · injection split with head tail
      subst head tail
      obtain ⟨first, more, chars, starts⟩ := Numeral.exists_start literal
      have joins : startsLiteral (numeral.chars ++ text) = true := by
        rw [chars]
        exact starts
      have unary : minusIsUnary ⟨position, '-' :: (numeral.chars ++ text), previous⟩ = true :=
        minusIsUnary_iff.mpr follows
      have minus : Symbol.ofChar? '-' = some .minus := rfl
      have stop : position + ('-' :: numeral.chars).length =
          position + ['-'].length + numeral.chars.length := by
        simp only [List.length_cons, List.length_nil]
        omega
      simp only [item, List.append_eq, minus, unary, joins, decide_true, Bool.and_self, ↓reduceIte]
      rw [literal_eq_accept literal _ apart, stop]
      rfl

theorem skip_eq (space : ∀ c ∈ blanks, isSpace c = true) (solid : text.head?.any isSpace = false) :
    skip ⟨position, blanks ++ text, previous⟩ = ⟨position + blanks.length, text, previous⟩ := by
  obtain ⟨taken, left⟩ := span_append space solid
  simp only [skip, taken, left]

/-- A step that reads an item passes over space and reads what starts behind it. -/
theorem exists_item_of_next {found : Item} (reads : scanner.next functions = (some found, after)) :
    ∃ blanks c rest, scanner.rest = blanks ++ c :: rest ∧ (∀ c ∈ blanks, isSpace c = true) ∧
      item functions ⟨scanner.position + blanks.length, c :: rest, scanner.previous⟩ c rest =
        (found, after) := by
  obtain ⟨position, text, previous⟩ := scanner
  have split := List.takeWhile_append_dropWhile (p := isSpace) (l := text)
  have space := List.all_eq_true.mp (List.all_takeWhile (p := isSpace) (l := text))
  unfold next skip at reads
  dsimp only at reads
  cases left : text.dropWhile isSpace with
  | nil =>
    rw [left] at reads
    cases reads
  | cons c rest =>
    rw [left] at reads split
    simp only [Prod.mk.injEq, Option.some.injEq] at reads
    exact ⟨_, c, rest, split.symm, space, Prod.ext reads.1 reads.2⟩

/-- A step that reads a token passes over space and takes the token off the text. -/
theorem exists_munches_of_next
    (reads : next functions ⟨position, text, previous⟩ = (some (.ok token), after)) :
    ∃ blanks slice rest lexeme, text = blanks ++ slice ++ rest ∧
      (∀ c ∈ blanks, isSpace c = true) ∧ lexeme.Munches previous slice rest ∧
      lexeme.Enabled functions ∧
      token = ⟨lexeme, ⟨position + blanks.length, position + blanks.length + slice.length⟩⟩ ∧
      after = ⟨position + blanks.length + slice.length, rest, some lexeme⟩ := by
  obtain ⟨blanks, c, behind, split, space, reads⟩ := exists_item_of_next reads
  obtain ⟨slice, rest, lexeme, cut, munches, enabled, accepts⟩ := exists_munches_of_item reads
  cases accepts
  refine ⟨blanks, slice, rest, lexeme, ?_, space, munches, enabled, rfl, rfl⟩
  rw [List.append_assoc, ← cut]
  exact split

theorem next_eq_of_munches (space : ∀ c ∈ blanks, isSpace c = true)
    (munches : lexeme.Munches previous slice rest) (enabled : lexeme.Enabled functions) :
    next functions ⟨position, blanks ++ slice ++ rest, previous⟩ =
      (some (.ok ⟨lexeme, ⟨position + blanks.length, position + blanks.length + slice.length⟩⟩),
        ⟨position + blanks.length + slice.length, rest, some lexeme⟩) := by
  obtain ⟨first, more, same, solid⟩ := exists_solid munches
  have skipped : skip ⟨position, blanks ++ slice ++ rest, previous⟩ =
      ⟨position + blanks.length, first :: (more ++ rest), previous⟩ := by
    rw [List.append_assoc, same]
    exact skip_eq space solid
  have split : first :: (more ++ rest) = slice ++ rest := by rw [same, List.cons_append]
  unfold next
  rw [skipped]
  dsimp only
  rw [item_eq_accept split munches enabled]
  rfl

theorem space_of_next (ends : next functions ⟨position, text, previous⟩ = (none, after)) :
    ∀ c ∈ text, isSpace c = true := by
  unfold next skip at ends
  dsimp only at ends
  split at ends
  case h_1 none => exact List.dropWhile_eq_nil_iff.mp none
  case h_2 => cases ends

theorem next_eq_none (space : ∀ c ∈ text, isSpace c = true) :
    next functions ⟨position, text, previous⟩ =
      (none, ⟨position + text.length, [], previous⟩) := by
  have skipped : skip ⟨position, text ++ [], previous⟩ = ⟨position + text.length, [], previous⟩ :=
    skip_eq space rfl
  rw [List.append_nil] at skipped
  rw [next, skipped]

theorem items_of_next {item : Item} (next : scanner.next functions = (some item, after)) :
    scanner.items functions = item :: after.items functions := by
  rw [items]
  split
  case h_1 none =>
    rw [next] at none
    cases none
  case h_2 same =>
    cases next.symm.trans same
    rfl

theorem items_of_end (ends : scanner.next functions = (none, after)) :
    scanner.items functions = [] := by
  rw [items]
  split
  case h_1 => rfl
  case h_2 same => cases ends.symm.trans same

/-- A text is cut into tokens, from a position on and behind a lexeme, with space between them. -/
inductive Cut (functions : Bool) : Nat → Option Lexeme → List Char → List Token → Prop
  | done {position : Nat} {previous : Option Lexeme} {blanks : List Char}
      (space : ∀ c ∈ blanks, isSpace c = true) : Cut functions position previous blanks []
  | token {position : Nat} {previous : Option Lexeme} {blanks slice rest : List Char}
      {lexeme : Lexeme} {tokens : List Token} (space : ∀ c ∈ blanks, isSpace c = true)
      (munches : lexeme.Munches previous slice rest) (enabled : lexeme.Enabled functions)
      (more : Cut functions (position + blanks.length + slice.length) (some lexeme) rest tokens) :
    Cut functions position previous (blanks ++ slice ++ rest)
      (⟨lexeme, ⟨position + blanks.length, position + blanks.length + slice.length⟩⟩ :: tokens)

theorem items_of_cut {tokens : List Token} (cut : Cut functions position previous text tokens) :
    items functions ⟨position, text, previous⟩ = tokens.map .ok := by
  induction cut with
  | done space => exact items_of_end (next_eq_none space)
  | token space munches enabled _ ih =>
    rw [items_of_next (next_eq_of_munches space munches enabled), ih]
    rfl

/-- A text is cut in only one way. -/
theorem Cut.unique {tokens others : List Token}
    (cut : Cut functions position previous text tokens)
    (cut' : Cut functions position previous text others) : tokens = others := by
  have same : tokens.map (Except.ok : Token → Item) = others.map Except.ok := by
    rw [← items_of_cut cut, ← items_of_cut cut']
  exact List.map_injective_iff.mpr (fun _ _ => Except.ok.inj) same

theorem cut_of_items {tokens : List Token}
    (reads : items functions ⟨position, text, previous⟩ = tokens.map .ok) :
    Cut functions position previous text tokens := by
  induction tokens generalizing position text previous with
  | nil =>
    cases step : next functions ⟨position, text, previous⟩ with
    | mk item after =>
      cases item with
      | none => exact .done (space_of_next step)
      | some item =>
        rw [items_of_next step] at reads
        cases reads
  | cons token tokens ih =>
    cases step : next functions ⟨position, text, previous⟩ with
    | mk item after =>
      cases item with
      | none =>
        rw [items_of_end step] at reads
        cases reads
      | some item =>
        rw [items_of_next step] at reads
        injection reads with first more
        subst first
        obtain ⟨blanks, slice, rest, lexeme, rfl, space, munches, enabled, rfl, rfl⟩ :=
          exists_munches_of_next step
        exact .token space munches enabled (ih more)

end Scanner

end Calculator
