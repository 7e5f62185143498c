import Calculator.Proofs.Parse.Language

/-! # The limits of the parser are exact

Only a fault that says so comes from a limit: every other reading is the same under larger limits.
What fails under the limits and is read without them therefore fails with such a fault.
-/

namespace Calculator

namespace Parse

variable {limits wide : Limits} {finish : Span} {task : Task} {depth : Nat} {tokens : List Token}
  {reading : Reading}

/-- A reading that no limit cuts short is the same under larger limits. -/
theorem Run.mono (run : Run limits finish task depth tokens reading)
    (deeper : limits.maxDepth ≤ wide.maxDepth) (taller : limits.maxHeight ≤ wide.maxHeight)
    (within : ¬ reading.Exceeds limits) : Run wide finish task depth tokens reading := by
  induction run with
  | operandMissing => exact .operandMissing
  | number unsigned => exact .number unsigned
  | stray notMinus notOpen => exact .stray notMinus notOpen
  | callEnds => exact .callEnds
  | callUnopened notOpen => exact .callUnopened notOpen
  | stop stops => exact .stop stops
  | signedPowerDeep | operandTall | nestedDeep | rightTall => exact (within rfl).elim
  | signedPower signed room _ ih =>
    rw [Reading.exceeds_map] at within
    exact .signedPower signed (Nat.le_trans room deeper) (ih within)
  | negate _ ih =>
    rw [Reading.exceeds_map] at within
    exact .negate (ih within)
  | group _ ih =>
    rw [Reading.exceeds_close] at within
    exact .group (ih within)
  | call _ ih =>
    rw [Reading.exceeds_map, Reading.exceeds_close] at within
    exact .call (ih within)
  | operandFailed _ ih => exact .operandFailed (ih within)
  | expression _ low _ ihFirst ihMore =>
    exact .expression (ihFirst not_false) (Nat.le_trans low taller) (ihMore within)
  | nested room _ ih => exact .nested (Nat.le_trans room deeper) (ih within)
  | rightFailed operator binds _ ih => exact .rightFailed operator binds (ih within)
  | extend operator binds _ low _ ihRight ihMore =>
    exact .extend operator binds (ihRight not_false) (Nat.le_trans low taller) (ihMore within)

end Parse

open Grammar Parse

variable {limits wide : Limits} {tokens : List Token} {tree : Expr}

/-- An answer that no limit cuts short is the same under larger limits. -/
theorem parse_of_wider
    (settled : ∀ fault, parse limits tokens = .error fault → ¬ limits.Exceeded fault)
    (deeper : limits.maxDepth ≤ wide.maxDepth) (taller : limits.maxHeight ≤ wide.maxHeight) :
    parse wide tokens = parse limits tokens := by
  obtain ⟨reading, run, verdict⟩ := parse_eq_verdict limits tokens
  have within : ¬ reading.Exceeds limits := by
    intro exceeds
    cases reading with
    | done => exact exceeds
    | failed fault depth rest => exact settled fault verdict exceeds
  rw [verdict]
  exact parse_eq_of_run (run.mono deeper taller within)

theorem parse_mono (accepted : parse limits tokens = .ok tree)
    (deeper : limits.maxDepth ≤ wide.maxDepth) (taller : limits.maxHeight ≤ wide.maxHeight) :
    parse wide tokens = .ok tree := by
  rw [parse_of_wider _ deeper taller, accepted]
  intro fault rejected
  rw [accepted] at rejected
  cases rejected

/-- A fault where larger limits lead to a tree blames a limit. -/
theorem exceeded_of_wider {fault : ParseFault} (rejected : parse limits tokens = .error fault)
    (deeper : limits.maxDepth ≤ wide.maxDepth) (taller : limits.maxHeight ≤ wide.maxHeight)
    (accepted : parse wide tokens = .ok tree) : limits.Exceeded fault := by
  by_contra within
  have same : parse wide tokens = parse limits tokens := by
    apply parse_of_wider _ deeper taller
    intro other failed
    rw [rejected] at failed
    cases failed
    exact within
  rw [rejected, accepted] at same
  cases same

/-- The larger of two limits on nesting and on height. -/
def Limits.join (limits wide : Limits) : Limits :=
  { maxDepth := max limits.maxDepth wide.maxDepth,
    maxHeight := max limits.maxHeight wide.maxHeight }

/-- With respect to limits no smaller than the number of tokens, the limits cut off exactly the
trees that nest more deeply or are taller than they allow, and say so. -/
theorem parse_limits_exact (deep : tokens.length ≤ wide.maxDepth)
    (tall : tokens.length ≤ wide.maxHeight) :
    (∀ tree, parse limits tokens = .ok tree → parse wide tokens = .ok tree) ∧
    ∀ tree, parse wide tokens = .ok tree →
      ∃ derivation : Derivation .expr (Token.lexemes tokens) tree,
        (∀ other : Derivation .expr (Token.lexemes tokens) tree, other = derivation) ∧
        (parse limits tokens = .ok tree ↔
          derivation.nest ≤ limits.maxDepth ∧ tree.height ≤ limits.maxHeight) ∧
        (limits.maxDepth < derivation.nest ∨ limits.maxHeight < tree.height →
          ∃ fault, parse limits tokens = .error fault ∧ limits.Exceeded fault) := by
  have widens (tree : Expr) (accepted : parse limits tokens = .ok tree) :
      parse wide tokens = .ok tree := by
    obtain ⟨_, derivation, _⟩ := parse_eq_ok_iff_within.mp accepted
    exact parse_eq_ok_of_derivation deep tall derivation
  refine ⟨widens, fun tree accepted => ?_⟩
  obtain ⟨_, derivation, _⟩ := parse_eq_ok_iff_within.mp accepted
  have alone (other : Derivation .expr (Token.lexemes tokens) tree) : other = derivation :=
    eq_of_heq (other.unique derivation rfl).2
  have bounds : parse limits tokens = .ok tree ↔
      derivation.nest ≤ limits.maxDepth ∧ tree.height ≤ limits.maxHeight := by
    rw [parse_eq_ok_iff_within]
    constructor
    · rintro ⟨low, other, shallow⟩
      rw [alone other] at shallow
      exact ⟨shallow, low⟩
    · rintro ⟨shallow, low⟩
      exact ⟨low, derivation, shallow⟩
  refine ⟨derivation, alone, bounds, fun cut => ?_⟩
  cases answer : parse limits tokens with
  | ok other =>
    have same := widens other answer
    rw [accepted] at same
    cases same
    have within := bounds.mp answer
    omega
  | error fault =>
    have joined : parse (limits.join wide) tokens = .ok tree :=
      parse_mono accepted (Nat.le_max_right _ _) (Nat.le_max_right _ _)
    exact ⟨fault, rfl, exceeded_of_wider answer (Nat.le_max_left _ _) (Nat.le_max_left _ _) joined⟩

/-- A number in two pairs of parentheses is read under the default limits, and cut off where one
level of nesting is allowed. -/
theorem parse_twice_grouped :
    let tokens := Token.spelling [.symbol .openParen, .symbol .openParen, .number 1,
      .symbol .closeParen, .symbol .closeParen]
    let limits : Limits := { maxDepth := 1 }
    let wide : Limits := {}
    tokens.length ≤ wide.maxDepth ∧ tokens.length ≤ wide.maxHeight ∧
      parse wide tokens = .ok (.literal 1) ∧
      ∃ fault, parse limits tokens = .error fault ∧ limits.Exceeded fault := by
  intro tokens limits wide
  let derivation : Derivation .expr (Token.lexemes tokens) (.literal 1) :=
    .term (.unary (.primary (.group (.term (.unary (.primary (.group
      (.term (.unary (.primary (.number 1)))))))))))
  have accepted : parse wide tokens = .ok (.literal 1) :=
    parse_eq_ok_of_derivation (by decide) (by decide) derivation
  have cuts := @parse_limits_exact limits wide tokens (by decide) (by decide)
  obtain ⟨only, alone, -, cut⟩ := cuts.2 _ accepted
  obtain rfl := alone derivation
  exact ⟨by decide, by decide, accepted, cut (.inl (by decide))⟩

end Calculator
