import Calculator.Proofs.Parse.Language
import Calculator.Proofs.Parse.Neighbours
import Calculator.Proofs.Token.Wording
import Calculator.Solve
import Mathlib.Data.String.Basic

/-! # Equations and the words in them

An equation that is read spells its tree with the words that a scan takes off it. Under limits no
smaller than its length in bytes there is no more to it: whatever its words spell is read.
-/

namespace Calculator

open Grammar Scanner

variable {limits : Limits} {equation : String} {words : List Lexeme} {tree : Expr}

/-- Whether no limit is smaller than the number of bytes of an equation. -/
structure Limits.Ample (limits : Limits) (equation : String) : Prop where
  length : equation.utf8ByteSize ≤ limits.maxLength
  depth : equation.utf8ByteSize ≤ limits.maxDepth
  height : equation.utf8ByteSize ≤ limits.maxHeight

/-- The tokens and the tree of an equation that is read. -/
theorem parseEquation_eq_ok_iff :
    parseEquation limits equation = .ok tree ↔
      ∃ tokens, tokenize limits equation = .ok tokens ∧ parse limits tokens = .ok tree := by
  constructor
  · intro accepted
    unfold parseEquation at accepted
    split at accepted
    · cases accepted
    case h_2 tokens tokenized =>
      split at accepted
      · cases accepted
      case h_2 parsed =>
        cases accepted
        exact ⟨tokens, tokenized, parsed⟩
  · rintro ⟨tokens, tokenized, parsed⟩
    simp only [parseEquation, tokenized, parsed]

/-- The tree of an equation is no taller than the limits allow. -/
theorem height_le_of_parseEquation (accepted : parseEquation limits equation = .ok tree) :
    tree.height ≤ limits.maxHeight := by
  obtain ⟨tokens, -, parsed⟩ := parseEquation_eq_ok_iff.mp accepted
  exact (parse_eq_ok_iff_within.mp parsed).1

/-- The words of an equation that is read spell its tree. -/
theorem spells_of_parseEquation (accepted : parseEquation limits equation = .ok tree) :
    ∃ words, Worded limits.functions none equation.toList words ∧ Spells words tree := by
  obtain ⟨tokens, tokenized, parsed⟩ := parseEquation_eq_ok_iff.mp accepted
  obtain ⟨-, scans, -⟩ := tokenize_eq_ok_iff.mp tokenized
  obtain ⟨-, derivation, -⟩ := parse_eq_ok_iff_within.mp parsed
  exact ⟨Token.lexemes tokens, (cut_of_items scans).worded, ⟨derivation⟩⟩

theorem length_toList_le (text : String) : text.toList.length ≤ text.utf8ByteSize := by
  rw [← String.utf8Len_toList]
  induction text.toList with
  | nil => exact Nat.zero_le _
  | cons c rest ih =>
    have size := c.utf8Size_pos
    rw [List.length_cons, String.utf8Len_cons]
    omega

/-- An equation whose words spell a tree is read as that tree, unless it is too long. -/
theorem parseEquation_of_spells (worded : Worded limits.functions none equation.toList words)
    (spells : Spells words tree) (ample : limits.Ample equation) :
    parseEquation limits equation = .ok tree := by
  obtain ⟨tokens, rfl, cut⟩ := worded.exists_cut 0
  obtain ⟨derivation⟩ := spells
  have short := Nat.le_trans worded.length_le (length_toList_le equation)
  rw [Token.length_lexemes] at short
  refine parseEquation_eq_ok_iff.mpr ⟨tokens, tokenize_eq_ok_iff.mpr ⟨ample.length, ?_, ?_⟩, ?_⟩
  · exact items_of_cut cut
  · exact Token.firstClash?_eq_none_iff.mpr derivation.phrase.fit
  · exact parse_eq_ok_of_derivation (Nat.le_trans short ample.depth)
      (Nat.le_trans short ample.height) derivation

end Calculator
