import Calculator.Proofs.Answer.Json
import Calculator.Proofs.Answer.JsonRules

/-! # Strings in JSON

A text is read back from its JSON string character by character: each is written as an escape that
stands for it, or as itself if it neither ends a string, nor starts an escape, nor is a control
character. No control character is left in what is written.
-/

namespace Calculator.Json

theorem hexDigit_digitChar {n : Nat} (small : n < 16) : hexDigit? (Nat.digitChar n) = some n := by
  revert n
  decide

/-- A control character is written as four hexadecimal digits. -/
theorem codeUnit_digits {high low : Nat} (highSmall : high < 16) (lowSmall : low < 16)
    (text : List Char) :
    Takes codeUnit ('0' :: '0' :: Nat.digitChar high :: Nat.digitChar low :: text)
      (high * 16 + low) text := by
  refine ⟨by simp only [List.length_cons]; omega, ?_⟩
  have zero : hexDigit? '0' = some 0 := rfl
  simp only [codeUnit, zero, hexDigit_digitChar highSmall, hexDigit_digitChar lowSmall,
    Option.bind_eq_bind, Option.bind_some, Option.pure_def, Nat.zero_mul, Nat.zero_add]

section Characters

variable {c : Char} {text rest more : List Char}

theorem characters_escape {escaped : List Char} (taken : Takes escape escaped c text)
    (read : Takes characters text more rest) :
    Takes characters ('\\' :: escaped) (c :: more) rest := by
  obtain ⟨shorter, taken⟩ := taken
  obtain ⟨shorter', read⟩ := read
  refine ⟨Nat.le_succ_of_le (Nat.le_trans shorter' shorter), ?_⟩
  rw [characters]
  simp only [taken, read, Option.bind_eq_bind, Option.bind_some, Option.pure_def]

theorem characters_letter {letter : Char} (stands : escaped? letter = some c)
    (read : Takes characters text more rest) :
    Takes characters ('\\' :: letter :: text) (c :: more) rest := by
  refine characters_escape ⟨Nat.le_succ _, ?_⟩ read
  have other : letter = 'u' → False := by
    rintro rfl
    cases stands
  rw [escape, stands]
  · rfl
  · exact other

theorem characters_unit {high low : Nat} (highSmall : high < 16) (lowSmall : low < 16)
    (same : c.toNat = high * 16 + low) (read : Takes characters text more rest) :
    Takes characters ('\\' :: 'u' :: '0' :: '0' :: Nat.digitChar high :: Nat.digitChar low :: text)
      (c :: more) rest := by
  obtain ⟨shorter, unit⟩ := codeUnit_digits highSmall lowSmall text
  refine characters_escape ⟨Nat.le_succ_of_le shorter, ?_⟩ read
  have valid : (high * 16 + low).isValidChar := same ▸ c.valid
  have char : Char.ofNat (high * 16 + low) = c := same ▸ c.ofNat_toNat
  simp only [escape, unit, valid, char, Option.bind_eq_bind, Option.bind_some, Option.pure_def,
    if_true]

theorem characters_plain (quote : c ≠ '"') (backslash : c ≠ '\\') (visible : 0x20 ≤ c.toNat)
    (read : Takes characters text more rest) :
    Takes characters (c :: text) (c :: more) rest := by
  obtain ⟨shorter, read⟩ := read
  refine ⟨Nat.le_succ_of_le shorter, ?_⟩
  rw [characters]
  · rw [if_neg (Nat.not_lt.mpr visible), read]
    rfl
  · exact quote
  · exact backslash

/-- A letter stands for what the reader takes it for. -/
theorem escaped_of_mem {letter : Char} (stands : (letter, c) ∈ shortEscapes) :
    escaped? letter = some c := by
  have all : ∀ pair ∈ shortEscapes, escaped? pair.1 = some pair.2 := by decide
  exact all _ stands

theorem characters_isEscape {escaped : List Char} (escapes : IsEscape c escaped)
    (read : Takes characters text more rest) :
    Takes characters (escaped ++ text) (c :: more) rest := by
  cases escapes with
  | letter stands => exact characters_letter (escaped_of_mem stands) read
  | code highSmall lowSmall same => exact characters_unit highSmall lowSmall same read

theorem visible_digitChar {n : Nat} (small : n < 16) : 0x20 ≤ (Nat.digitChar n).toNat := by
  revert n
  decide

/-- An escape holds no control character. -/
theorem visible_isEscape {escaped : List Char} (escapes : IsEscape c escaped) :
    ∀ c' ∈ escaped, 0x20 ≤ c'.toNat := by
  cases escapes with
  | letter stands =>
    have letters : ∀ pair ∈ shortEscapes, 0x20 ≤ pair.1.toNat := by decide
    simp only [List.forall_mem_cons]
    exact ⟨by decide, letters _ stands, List.forall_mem_nil _⟩
  | code highSmall lowSmall =>
    simp only [List.forall_mem_cons]
    exact ⟨by decide, by decide, by decide, by decide, visible_digitChar highSmall,
      visible_digitChar lowSmall, List.forall_mem_nil _⟩

theorem string_append {writer : JsonWriter} (text : String) (rest : List Char) :
    writer.string text ++ rest = '"' :: (text.toList.flatMap writer.escape ++ '"' :: rest) := by
  rw [JsonWriter.string, List.cons_append, List.cons_append, List.append_assoc,
    List.singleton_append]

section Writer

variable {writer : JsonWriter} (lawful : writer.Lawful)

include lawful

/-- A character is read back from what is written for it. -/
theorem characters_writer (c : Char) (read : Takes characters text more rest) :
    Takes characters (writer.escape c ++ text) (c :: more) rest := by
  by_cases needs : NeedsEscape c
  · exact characters_isEscape (lawful.escaped needs) read
  · rw [lawful.plain needs]
    obtain ⟨quote, backslash, visible⟩ := not_needsEscape.mp needs
    exact characters_plain quote backslash visible read

/-- A text is read back from what stands between the quotes of its JSON string. -/
theorem characters_flatMap (text rest : List Char) :
    Takes characters (text.flatMap writer.escape ++ '"' :: rest) text rest := by
  induction text with
  | nil =>
    rw [List.flatMap_nil, List.nil_append]
    exact ⟨Nat.le_succ _, by rw [characters]⟩
  | cons c text ih =>
    rw [List.flatMap_cons, List.append_assoc]
    exact characters_writer lawful c ih

/-- A text is read back from its JSON string. -/
theorem value_string (text : String) (rest : List Char) :
    Takes value (writer.string text ++ rest) (.string text) rest := by
  obtain ⟨shorter, read⟩ := characters_flatMap lawful text.toList rest
  rw [string_append]
  refine ⟨Nat.le_succ_of_le shorter, ?_⟩
  rw [value, read]
  simp only [Option.bind_eq_bind, Option.bind_some, Option.pure_def, String.ofList_toList]

/-- What is written for a character holds no control character. -/
theorem visible_writer (c : Char) : ∀ c' ∈ writer.escape c, 0x20 ≤ c'.toNat := by
  by_cases needs : NeedsEscape c
  · exact visible_isEscape (lawful.escaped needs)
  · rw [lawful.plain needs, List.forall_mem_singleton]
    exact (not_needsEscape.mp needs).2.2

theorem visible_string (text : String) : ∀ c ∈ writer.string text, 0x20 ≤ c.toNat := by
  intro c member
  rcases List.mem_cons.mp member with rfl | member
  · decide
  rcases List.mem_append.mp member with member | member
  · obtain ⟨c', -, written⟩ := List.mem_flatMap.mp member
    exact visible_writer lawful c' c written
  · rw [List.mem_singleton.mp member]
    decide

end Writer

end Characters

end Calculator.Json
