import Calculator.Proofs.Parse.Relabel
import Calculator.Proofs.Token.Runs

/-! # Letter case in a scan

A scan asks whether a character is a letter, but neither which one nor whether it is a capital. So a
text with small letters is cut in the same places, into the same words with small letters, and meets
the same faults. This holds where functions are disabled, too: there a letter is a fault by itself.
-/

namespace Calculator

open Scanner

/-- The change that makes the letters of names small and keeps all places. -/
def Relabeling.lowercase : Relabeling := ⟨Char.toLower, id, rfl⟩

theorem Relabeling.place_lower (span : Span) : lowercase.place span = span := rfl

/-- An item of a scan with small letters. -/
def Item.lower : Item → Item
  | .ok token => .ok (token.relabel .lowercase)
  | .error fault => .error (fault.relabel .lowercase)

variable {c : Char} {text : List Char} {scanner : Scanner} {functions : Bool}

theorem toLower_of_other (other : c.isAlpha = false) : c.toLower = c := by
  apply Char.toLower_eq_of_not_isUpper
  intro capital
  rw [Char.isAlpha, capital] at other
  cases other

/-- A question that has the same answer for all letters has it also for small ones. -/
theorem ask_toLower {α : Type} {ask : Char → α} {answer : α}
    (letters : ∀ c, c.isAlpha = true → ask c = answer) (c : Char) : ask c.toLower = ask c := by
  cases letter : c.isAlpha with
  | true => rw [letters c letter, letters _ (c.isAlpha_toLower_eq_isAlpha.trans letter)]
  | false => rw [toLower_of_other letter]

theorem ofChar?_toLower (c : Char) : Symbol.ofChar? c.toLower = Symbol.ofChar? c :=
  ask_toLower (fun _ letter => (solid_of_isAlpha letter).1) c

theorem isSpace_toLower (c : Char) : isSpace c.toLower = isSpace c :=
  ask_toLower (fun _ letter => (solid_of_isAlpha letter).2.1) c

theorem isStart_toLower (c : Char) : Numeral.isStart c.toLower = Numeral.isStart c :=
  ask_toLower (fun _ letter => (solid_of_isAlpha letter).2.2) c

theorem utf8Size_toLower (c : Char) : c.toLower.utf8Size = c.utf8Size :=
  ask_toLower (fun _ letter => utf8Size_of_le (ascii_of_isAlpha letter)) c

/-- What is answered otherwise than for letters is no letter. -/
theorem toLower_of_ask {α : Type} {ask : Char → α} {answer : α}
    (letters : ∀ c, c.isAlpha = true → ask c = answer) (other : ask c ≠ answer) :
    c.toLower = c := by
  apply toLower_of_other
  exact Bool.eq_false_iff.mpr fun letter => other (letters c letter)

theorem toLower_of_symbol {sign : Symbol} (symbol : Symbol.ofChar? c = some sign) :
    c.toLower = c :=
  toLower_of_ask (fun _ letter => (solid_of_isAlpha letter).1) (symbol.trans_ne nofun)

theorem toLower_of_isStart (starts : Numeral.isStart c = true) : c.toLower = c :=
  toLower_of_ask (fun _ letter => (solid_of_isAlpha letter).2.2) (starts.trans_ne nofun)

theorem map_toLower_of_isStart (starts : ∀ c ∈ text, Numeral.isStart c = true) :
    text.map Char.toLower = text :=
  (List.map_congr_left fun c member => toLower_of_isStart (starts c member)).trans (List.map_id _)

theorem takeWhile_toLower {ask : Char → Bool} (keeps : ∀ c, ask c.toLower = ask c)
    (text : List Char) :
    (text.map Char.toLower).takeWhile ask = (text.takeWhile ask).map Char.toLower := by
  have same : ask ∘ Char.toLower = ask := funext keeps
  rw [List.takeWhile_map, same]

theorem dropWhile_toLower {ask : Char → Bool} (keeps : ∀ c, ask c.toLower = ask c)
    (text : List Char) :
    (text.map Char.toLower).dropWhile ask = (text.dropWhile ask).map Char.toLower := by
  have same : ask ∘ Char.toLower = ask := funext keeps
  rw [List.dropWhile_map, same]

theorem any_head?_isStart_toLower (text : List Char) :
    (text.map Char.toLower).head?.any Numeral.isStart = text.head?.any Numeral.isStart := by
  cases text with
  | nil => rfl
  | cons c rest => exact isStart_toLower c

/-- An equation with small letters has as many bytes. -/
theorem utf8ByteSize_toLower (equation : String) :
    equation.toLower.utf8ByteSize = equation.utf8ByteSize := by
  rw [← String.utf8Len_toList, ← String.utf8Len_toList, String.toLower, String.toList_map]
  induction equation.toList with
  | nil => rfl
  | cons c rest ih =>
    rw [List.map_cons, String.utf8Len_cons, String.utf8Len_cons, ih, utf8Size_toLower]

/-- The same literal is parsed at the start of a text with small letters. -/
theorem Numeral.parse_toLower (starts : startsLiteral text = true) :
    parse (text.map Char.toLower) = parse text := by
  obtain ⟨digits, after, rfl, small, form, apart⟩ := exists_runForm starts
  have apart' : (after.map Char.toLower).head?.any isStart = false :=
    (any_head?_isStart_toLower after).trans apart
  rw [List.map_append, map_toLower_of_isStart small]
  exact form.parse_eq apart' apart

namespace Scanner

/-- A scanner on a text with small letters. -/
def lower (scanner : Scanner) : Scanner :=
  ⟨scanner.position, scanner.rest.map Char.toLower,
    scanner.previous.map (Lexeme.relabel .lowercase)⟩

theorem minusIsUnary_lower (scanner : Scanner) :
    scanner.lower.minusIsUnary = scanner.minusIsUnary := by
  obtain ⟨position, rest, _ | lexeme⟩ := scanner
  · rfl
  · cases lexeme <;> rfl

theorem skip_lower (scanner : Scanner) : scanner.lower.skip = scanner.skip.lower := by
  simp only [skip, lower, takeWhile_toLower isSpace_toLower, dropWhile_toLower isSpace_toLower,
    List.length_map]

/-- A literal is read from small letters as it is from any, and so is what is none. -/
theorem literal_lower {digits : List Char} (starts : startsLiteral digits = true)
    (sign rest : List Char) :
    scanner.lower.literal sign (digits.map Char.toLower) (rest.map Char.toLower) =
      (Item.lower (scanner.literal sign digits rest).1,
        (scanner.literal sign digits rest).2.lower) := by
  unfold literal
  rw [Numeral.parse_toLower starts]
  cases parses : Numeral.parse digits with
  | ok result =>
    dsimp only
    rw [← List.map_drop]
    rfl
  | error failure =>
    obtain ⟨run, behind, rfl, length, -, small⟩ := Numeral.exists_run_of_error starts parses
    have same : ((run ++ behind).map Char.toLower).take failure.2 =
        (run ++ behind).take failure.2 := by
      rw [← length, List.map_append, map_toLower_of_isStart small, List.take_left, List.take_left]
    dsimp only
    rw [same]
    rfl

/-- A name is read from small letters in small letters. -/
theorem name_lower (c : Char) (rest : List Char) :
    String.ofList (c.toLower :: (rest.map Char.toLower).takeWhile Char.isAlpha) =
      (String.ofList (c :: rest.takeWhile Char.isAlpha)).map Char.toLower := by
  rw [takeWhile_toLower Char.isAlpha_toLower_eq_isAlpha, ← List.map_cons, ← String.toList_inj,
    String.toList_map, String.toList_ofList, String.toList_ofList]

/-- An item is read from small letters as it is from any. -/
theorem item_lower (functions : Bool) (scanner : Scanner) (c : Char) (rest : List Char) :
    scanner.lower.item functions c.toLower (rest.map Char.toLower) =
      (Item.lower (scanner.item functions c rest).1, (scanner.item functions c rest).2.lower) := by
  have follows : startsLiteral (rest.map Char.toLower) = startsLiteral rest :=
    any_head?_isStart_toLower rest
  unfold item
  rw [ofChar?_toLower, isStart_toLower, Char.isAlpha_toLower_eq_isAlpha, minusIsUnary_lower,
    follows]
  split
  case h_1 sign symbol =>
    rw [toLower_of_symbol symbol]
    split
    case isTrue joins =>
      rw [Bool.and_eq_true] at joins
      exact literal_lower joins.2 [c] rest
    case isFalse => rfl
  case h_2 =>
    split
    case isTrue starts =>
      have starts : startsLiteral (c :: rest) = true := starts
      exact literal_lower starts [] rest
    case isFalse =>
      split
      case isTrue =>
        dsimp only
        rw [name_lower, takeWhile_toLower Char.isAlpha_toLower_eq_isAlpha,
          dropWhile_toLower Char.isAlpha_toLower_eq_isAlpha, List.length_cons, List.length_map]
        rfl
      case isFalse =>
        dsimp only
        rw [utf8Size_toLower]
        rfl

theorem next_lower (functions : Bool) (scanner : Scanner) :
    scanner.lower.next functions =
      ((scanner.next functions).1.map Item.lower, (scanner.next functions).2.lower) := by
  unfold next
  rw [skip_lower]
  obtain ⟨position, rest, previous⟩ := scanner.skip
  cases rest with
  | nil => rfl
  | cons c rest =>
    have read := item_lower functions ⟨position, c :: rest, previous⟩ c rest
    exact congrArg (fun result : Item × Scanner => (some result.1, result.2)) read

/-- A text with small letters has the same items with small letters. -/
theorem items_lower (functions : Bool) (scanner : Scanner) :
    scanner.lower.items functions = (scanner.items functions).map Item.lower := by
  induction size : scanner.rest.length using Nat.strongRecOn generalizing scanner with
  | ind size ih =>
    subst size
    have lowered := scanner.next_lower functions
    rcases step : scanner.next functions with ⟨_ | item, after⟩
    · rw [step] at lowered
      rw [items_of_end step, items_of_end lowered]
      rfl
    · rw [step] at lowered
      rw [items_of_next step, items_of_next lowered, List.map_cons,
        ih _ (length_rest_next_lt step) after rfl]

end Scanner

theorem scan_toLower (functions : Bool) (equation : String) :
    scan functions equation.toLower = (scan functions equation).map Item.lower := by
  rw [scan, scan, ← items_lower]
  exact congrArg (Scanner.items functions ⟨0, ·, none⟩) String.toList_map

theorem Token.collect_lower (items : List Item) :
    collect (items.map Item.lower) =
      ((collect items).map (List.map (relabel .lowercase))).mapError
        (ScanFault.relabel .lowercase) := by
  induction items with
  | nil => rfl
  | cons item items ih =>
    cases item with
    | error fault => rfl
    | ok token =>
      rw [List.map_cons, Item.lower, collect, ih, collect]
      cases collect items <;> rfl

/-- An equation with small letters has the same tokens with small letters. -/
theorem tokenize_toLower (limits : Limits) (equation : String) :
    tokenize limits equation.toLower =
      ((tokenize limits equation).map (List.map (Token.relabel .lowercase))).mapError
        (ScanFault.relabel .lowercase) := by
  unfold tokenize
  rw [utf8ByteSize_toLower, scan_toLower, Token.collect_lower]
  split
  · rfl
  · cases Token.collect (scan limits.functions equation) with
    | error fault => rfl
    | ok tokens =>
      dsimp only [Except.map, Except.mapError]
      rw [Token.firstClash?_relabel]
      cases Token.firstClash? tokens <;> rfl

end Calculator
