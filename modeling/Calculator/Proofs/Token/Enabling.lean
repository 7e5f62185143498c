import Calculator.Proofs.Token.Munch

/-! # Scanning with functions enabled

A scan looks at whether functions are enabled only where it meets a letter outside of a literal. If
they are not, it reports the letter; what it reads before its first such fault, and any other first
fault, is the same with functions enabled.
-/

namespace Calculator

/-- Whether a fault is that of a letter where a token should start. -/
def ScanFault.IsLetter : ScanFault → Prop
  | .unexpectedCharacter c _ => c.isAlpha = true
  | _ => False

variable {limits wide : Limits} {equation : String}

namespace Scanner

/-- Enabling functions changes how a scan reads an item only if the item is a stray letter. -/
theorem item_enable (scanner : Scanner) (c : Char) (rest : List Char) :
    scanner.item true c rest = scanner.item false c rest ∨
      ∃ fault, fault.IsLetter ∧ (scanner.item false c rest).1 = .error fault := by
  unfold item
  cases Symbol.ofChar? c with
  | some sign => exact .inl rfl
  | none =>
    cases starts : Numeral.isStart c with
    | true => exact .inl rfl
    | false =>
      cases letter : c.isAlpha with
      | false => exact .inl rfl
      | true =>
        right
        exact ⟨.unexpectedCharacter c ⟨scanner.position, scanner.position + c.utf8Size⟩, letter, rfl⟩

theorem next_enable (scanner : Scanner) :
    scanner.next true = scanner.next false ∨
      ∃ fault, fault.IsLetter ∧ (scanner.next false).1 = some (.error fault) := by
  cases left : scanner.skip.rest with
  | nil =>
    left
    simp only [next, left]
  | cons c rest =>
    simp only [next, left]
    rcases scanner.skip.item_enable c rest with same | ⟨fault, letter, failed⟩
    · exact .inl (by rw [same])
    · exact .inr ⟨fault, letter, congrArg some failed⟩

/-- Enabling functions changes what a scan collects only if its first fault is a stray letter. -/
theorem collect_enable (scanner : Scanner)
    (settled : ∀ fault, Token.collect (scanner.items false) = .error fault → ¬ fault.IsLetter) :
    Token.collect (scanner.items true) = Token.collect (scanner.items false) := by
  induction size : scanner.rest.length using Nat.strongRecOn generalizing scanner with
  | ind size ih =>
    subst size
    rcases step : scanner.next false with ⟨_ | item, after⟩
    · rcases scanner.next_enable with same | ⟨fault, -, failed⟩
      · rw [items_of_end step, items_of_end (same.trans step)]
      · rw [step] at failed
        cases failed
    · rw [items_of_next step] at settled ⊢
      rcases scanner.next_enable with same | ⟨fault, letter, failed⟩
      · rw [items_of_next (same.trans step)]
        cases item with
        | error fault => rfl
        | ok token =>
          rw [Token.collect, Token.collect, ih _ (length_rest_next_lt step) after _ rfl]
          intro fault failed
          apply settled fault
          rw [Token.collect, failed]
          rfl
      · rw [step] at failed
        cases failed
        exact (settled fault rfl letter).elim

end Scanner

/-- A scan collects the same with larger limits, unless these enable functions and its first fault
is a stray letter. -/
theorem collect_scan_of_wider (enabled : limits.functions = true → wide.functions = true)
    (settled : ∀ fault, Token.collect (scan limits.functions equation) = .error fault →
      ¬ (limits.functions = false ∧ wide.functions = true ∧ fault.IsLetter)) :
    Token.collect (scan wide.functions equation) =
      Token.collect (scan limits.functions equation) := by
  cases before : limits.functions with
  | true => rw [enabled before]
  | false =>
    cases behind : wide.functions with
    | false => rfl
    | true =>
      rw [before] at settled
      apply Scanner.collect_enable
      intro fault failed letter
      exact settled fault failed ⟨rfl, behind, letter⟩

end Calculator
