import Calculator.Token.Scan

/-! # What tokenizing accepts

The tokens of an equation that is short enough are the items of its scan, if these are all tokens
and no two neighbours exclude each other.
-/

namespace Calculator

theorem eq_ok_of_toOption {ε α : Type} {result : Except ε α} {value : α}
    (same : result.toOption = some value) : result = .ok value := by
  cases result with
  | error fault => cases same
  | ok other =>
    cases same
    rfl

/-- Whether a text is a name that a scan reads. -/
def IsName (name : String) : Prop := name.toList ≠ [] ∧ ∀ c ∈ name.toList, c.isAlpha = true

namespace Token

/-- The tokens of items without faults are the items. -/
theorem collect_eq_ok_iff {items : List Item} {tokens : List Token} :
    collect items = .ok tokens ↔ items = tokens.map .ok := by
  induction items generalizing tokens with
  | nil => cases tokens <;> simp [collect]
  | cons item items ih =>
    cases item with
    | error fault => cases tokens <;> simp [collect]
    | ok token =>
      cases tokens with
      | nil => cases rest : collect items <;> simp [collect, rest, Except.map]
      | cons first tokens =>
        rw [List.map_cons, List.cons.injEq, ← ih, Except.ok.injEq, collect]
        cases rest : collect items <;> simp [Except.map]

end Token

variable {limits : Limits} {equation : String} {tokens : List Token}

/-- What the tokens of an equation are. -/
theorem tokenize_eq_ok_iff :
    tokenize limits equation = .ok tokens ↔
      equation.utf8ByteSize ≤ limits.maxLength ∧
        scan limits.functions equation = tokens.map .ok ∧ Token.firstClash? tokens = none := by
  constructor
  · intro accepted
    unfold tokenize at accepted
    split at accepted
    · cases accepted
    case isFalse short =>
      split at accepted
      · cases accepted
      case h_2 others collected =>
        split at accepted
        · cases accepted
        case h_2 compatible =>
          cases accepted
          exact ⟨Nat.le_of_not_lt short, Token.collect_eq_ok_iff.mp collected, compatible⟩
  · rintro ⟨short, items, compatible⟩
    rw [tokenize, if_neg (Nat.not_lt.mpr short), Token.collect_eq_ok_iff.mpr items]
    dsimp only
    rw [compatible]

end Calculator
