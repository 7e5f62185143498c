import Calculator.Answer
import Calculator.Proofs.Expr.Denotes

/-! # Answers to queries

An equation that has a value is never blank: some token of it has to be seen. So the answer to a
query is the value of its equation, if it has one, and otherwise a failure that says either that
nothing was asked or what is wrong with the equation.
-/

namespace Calculator

variable {limits : Limits} {equation : String} {value : Float} {fault : Fault}
  {lexeme : Lexeme} {previous : Option Lexeme} {slice rest : List Char}

namespace Text

/-- Whether a text has no characters but those with the property White_Space. -/
def Blank (text : String) : Prop :=
  ∀ c ∈ text.toList, ∃ range ∈ blankRanges, range.1 ≤ c.toNat ∧ c.toNat ≤ range.2

theorem isBlank_iff (text : String) : isBlank text = true ↔ Blank text := by
  rw [isBlank, List.all_eq_true]
  exact forall₂_congr fun c _ => inRanges_iff blankRanges_ascending c.toNat

instance (text : String) : Decidable (Blank text) := decidable_of_iff _ (isBlank_iff text)

/-- The characters between the space and the delete character are not white space. -/
theorem isBlankChar_eq_false {c : Char} (low : 0x20 < c.toNat) (high : c.toNat < 0x7F) :
    isBlankChar c = false := by
  simp only [isBlankChar, inRanges, blankRanges, Bool.or_false, Bool.and_eq_false_iff,
    Bool.or_eq_false_iff, decide_eq_false_iff_not]
  omega

end Text

theorem isBlankChar_of_isStart {c : Char} (starts : Numeral.isStart c = true) :
    Text.isBlankChar c = false := by
  rcases Bool.or_eq_true_iff.mp starts with digit | point
  · simp only [Char.isDigit, Bool.and_eq_true, decide_eq_true_eq, UInt32.le_iff_toNat_le,
      ge_iff_le] at digit
    exact Text.isBlankChar_eq_false (Nat.lt_of_lt_of_le (by decide) digit.1)
      (Nat.lt_of_le_of_lt digit.2 (by decide))
  · rw [of_decide_eq_true point]
    decide

theorem isBlankChar_of_isAlpha {c : Char} (letter : c.isAlpha = true) :
    Text.isBlankChar c = false := by
  simp only [Char.isAlpha, Char.isUpper, Char.isLower, Bool.or_eq_true, Bool.and_eq_true,
    decide_eq_true_eq, UInt32.le_iff_toNat_le, ge_iff_le] at letter
  rcases letter with ⟨low, high⟩ | ⟨low, high⟩
  · exact Text.isBlankChar_eq_false (Nat.lt_of_lt_of_le (by decide) low)
      (Nat.lt_of_le_of_lt high (by decide))
  · exact Text.isBlankChar_eq_false (Nat.lt_of_lt_of_le (by decide) low)
      (Nat.lt_of_le_of_lt high (by decide))

/-- Every token has a character that is not white space. -/
theorem Lexeme.Munches.exists_visible (munches : lexeme.Munches previous slice rest) :
    ∃ c ∈ slice, Text.isBlankChar c = false := by
  cases lexeme with
  | symbol sign =>
    obtain ⟨rfl, -⟩ := munches
    refine ⟨sign.char, List.mem_singleton_self _, ?_⟩
    cases sign <;> decide
  | function name =>
    obtain ⟨rfl, ⟨nonempty, letters⟩, -⟩ := munches
    obtain ⟨c, member⟩ := List.exists_mem_of_ne_nil _ nonempty
    exact ⟨c, member, isBlankChar_of_isAlpha (letters c member)⟩
  | number value =>
    obtain ⟨-, numeral, literal, cases⟩ := munches
    obtain ⟨c, member⟩ := List.exists_mem_of_ne_nil _ (Numeral.chars_ne_nil literal)
    have visible := isBlankChar_of_isStart (Numeral.isStart_of_mem_chars literal c member)
    rcases cases with ⟨rfl, -⟩ | ⟨-, rfl, -⟩
    · exact ⟨c, member, visible⟩
    · exact ⟨c, List.mem_cons_of_mem _ member, visible⟩

/-- No tree is read from no tokens. -/
theorem ne_nil_of_parse {tokens : List Token} {tree : Expr}
    (parsed : parse limits tokens = .ok tree) : tokens ≠ [] := by
  rintro rfl
  obtain ⟨-, derivation, -⟩ := parse_eq_ok_iff_within.mp parsed
  exact absurd derivation.height_lt_length (Nat.not_lt_zero _)

/-- An equation that is read is not blank. -/
theorem not_blank_of_parseEquation {tree : Expr}
    (accepted : parseEquation limits equation = .ok tree) : ¬ Text.Blank equation := by
  obtain ⟨tokens, tokenized, parsed⟩ := parseEquation_eq_ok_iff.mp accepted
  obtain ⟨-, scans, -⟩ := tokenize_eq_ok_iff.mp tokenized
  have cut : Scanner.Cut limits.functions 0 none equation.toList tokens :=
    Scanner.cut_of_items scans
  intro blank
  have all := List.all_eq_true.mp ((Text.isBlank_iff equation).mpr blank)
  generalize equation.toList = text at cut all
  cases cut with
  | done => exact ne_nil_of_parse parsed rfl
  | token _ munches _ _ =>
    obtain ⟨c, member, visible⟩ := munches.exists_visible
    have white := all c (by simp [member])
    rw [visible] at white
    cases white

/-- An equation that has a value is not blank. -/
theorem not_blank_of_solve (solved : solve limits equation = .ok value) :
    ¬ Text.Blank equation := by
  obtain ⟨tree, accepted, -⟩ := exists_tree_of_solve solved
  exact not_blank_of_parseEquation accepted

namespace Answer

theorem ofQuery_of_blank (blank : Text.Blank equation) :
    ofQuery limits (some equation) = .failure statusBadRequest missingEquation :=
  if_pos ((Text.isBlank_iff equation).mpr blank)

theorem ofQuery_of_ok (solved : solve limits equation = .ok value) :
    ofQuery limits (some equation) = .solution equation value := by
  have visible := not_blank_of_solve solved
  rw [← Text.isBlank_iff] at visible
  rw [ofQuery, if_neg visible, solved]

theorem ofQuery_of_error (failed : solve limits equation = .error fault)
    (visible : ¬ Text.Blank equation) :
    ofQuery limits (some equation) = .failure statusBadRequest fault.message := by
  rw [← Text.isBlank_iff] at visible
  rw [ofQuery, if_neg visible, failed]
  rfl

/-- A query succeeds if its equation has a value. -/
theorem isSuccess_ofQuery :
    (ofQuery limits (some equation)).isSuccess = true ↔
      ∃ value, solve limits equation = .ok value := by
  cases answer : solve limits equation with
  | ok value =>
    rw [ofQuery_of_ok answer]
    exact ⟨fun _ => ⟨value, rfl⟩, fun _ => rfl⟩
  | error fault =>
    have fails : ∃ message, ofQuery limits (some equation) = .failure statusBadRequest message := by
      by_cases blank : Text.Blank equation
      · exact ⟨_, ofQuery_of_blank blank⟩
      · exact ⟨_, ofQuery_of_error answer blank⟩
    obtain ⟨message, failure⟩ := fails
    rw [failure]
    exact ⟨fun success => absurd success Bool.false_ne_true, fun ⟨_, same⟩ => by cases same⟩

end Answer

end Calculator
