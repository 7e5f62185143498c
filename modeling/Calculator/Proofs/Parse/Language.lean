import Calculator.Proofs.Parse.Unambiguous

/-! # What the parser accepts

The parser accepts some tokens if and only if the grammar spells a tree with them, with no more
nesting and no more height than the limits allow; its answer is that tree. No more tokens than the
limits allow never nest more deeply, and spell no taller tree, than that.
-/

namespace Calculator

open Grammar

variable {limits : Limits} {tokens : List Token} {tree : Expr}

/-- The parser answers with the tree that the tokens spell within its limits. -/
theorem parse_eq_ok_iff_within :
    parse limits tokens = .ok tree ↔
      tree.height ≤ limits.maxHeight ∧
        SpellsWithin limits.maxDepth .expr (Token.lexemes tokens) tree := by
  rw [parse_eq_ok_iff_run]
  constructor
  · rintro ⟨last, run⟩
    obtain ⟨used, same, low, -, spelled⟩ := Run.spelled run rfl (Nat.zero_le _)
    rw [List.append_nil] at same
    subst same
    exact ⟨low, spelled⟩
  · rintro ⟨low, derivation, shallow⟩
    have resumes : Resumes limits (Parse.finish tokens) .expr tokens tree 0 :=
      derivation.resumes rfl shallow low
    obtain ⟨last, done⟩ := resumes.done
    refine ⟨last, ?_⟩
    have run := done 0 [] (Nat.zero_le _) (.of_stops trivial (by decide)) trivial
    rwa [List.append_nil] at run

/-- No more tokens than the limits allow are never cut off by them. -/
theorem parse_eq_ok_of_derivation (deep : tokens.length ≤ limits.maxDepth)
    (tall : tokens.length ≤ limits.maxHeight)
    (derivation : Derivation .expr (Token.lexemes tokens) tree) :
    parse limits tokens = .ok tree := by
  have nest := derivation.nest_lt_length
  have height := derivation.height_lt_length
  rw [Token.length_lexemes] at nest height
  exact parse_eq_ok_iff_within.mpr ⟨by omega, derivation, by omega⟩

/-- With limits that are no smaller than the number of tokens, the parser answers with the tree
that the grammar spells with them, of which there is at most one. -/
theorem parse_eq_ok_iff_spells (deep : tokens.length ≤ limits.maxDepth)
    (tall : tokens.length ≤ limits.maxHeight) :
    (parse limits tokens = .ok tree ↔ Spells (Token.lexemes tokens) tree) ∧
      Subsingleton ((tree : Expr) × Derivation .expr (Token.lexemes tokens) tree) := by
  refine ⟨⟨fun accepted => ?_, fun ⟨derivation⟩ => ?_⟩, ⟨?_⟩⟩
  · obtain ⟨_, derivation, _⟩ := parse_eq_ok_iff_within.mp accepted
    exact ⟨derivation⟩
  · exact parse_eq_ok_of_derivation deep tall derivation
  · rintro ⟨tree, first⟩ ⟨tree', second⟩
    obtain ⟨rfl, same⟩ := first.unique second rfl
    rw [eq_of_heq same]

/-- The square of a number with a sign is the negated square of its magnitude. -/
theorem parse_square_of_signed :
    let tokens := Token.spelling [.number (-2), .symbol .caret, .number 2]
    let limits : Limits := {}
    tokens.length ≤ limits.maxDepth ∧ tokens.length ≤ limits.maxHeight ∧
      parse limits tokens = .ok (.negate (.binary .pow (.literal (- -2)) (.literal 2))) :=
  ⟨by decide, by decide, (parse_eq_ok_iff_spells (by decide) (by decide)).1.mpr
    ⟨.term (.unary (.signedPower (by decide) (.primary (.number 2))))⟩⟩

end Calculator
