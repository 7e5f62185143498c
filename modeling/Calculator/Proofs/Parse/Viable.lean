import Calculator.Proofs.Parse.Faults
import Calculator.Proofs.Parse.Limits

/-! # Faults point at the first offending token

With limits that are no smaller than the number of tokens, no fault comes from a limit. Tokens that
could go on are then blamed at their end. Of tokens that could not, the parser blames the first one
with which that is so: before it fails there it has read words that could go on, and it would have
failed there too if the rest had been one that completes them.
-/

namespace Calculator

open Grammar Parse

variable {limits : Limits} {tokens : List Token} {fault : ParseFault}

/-- No more tokens than the limits allow never exceed one. -/
theorem not_exceeded (deep : tokens.length ≤ limits.maxDepth)
    (tall : tokens.length ≤ limits.maxHeight) (rejected : parse limits tokens = .error fault) :
    ¬ limits.Exceeded fault := by
  intro exceeded
  rcases exists_run_of_error rejected with ⟨tree, last, token, rest, -, rfl⟩ | ⟨depth, left, run⟩
  · rcases surplus_cases token with ⟨-, same⟩ | ⟨-, same⟩
    all_goals
      rw [same] at exceeded
      exact exceeded
  · have met := run.exceeds exceeded
    simp only [Task.height] at met
    omega

/-- Tokens on the last of which the parser fails, whatever follows it, cannot be continued. -/
theorem not_viable_of_rejected {used : List Token} {token : Token}
    (within : ¬ limits.Exceeded fault)
    (rejected : ∀ ahead, parse limits (used ++ token :: ahead) = .error fault) :
    ¬ Viable (Token.lexemes (used ++ [token])) := by
  rintro ⟨more, tree, ⟨derivation⟩⟩
  let whole := used ++ token :: Token.spelling more
  let wide := limits.join (roomy whole.length)
  have same : Token.lexemes (used ++ [token]) ++ more = Token.lexemes whole := by
    simp only [whole, Token.lexemes_append, Token.lexemes_cons, Token.lexemes_nil,
      Token.lexemes_spelling, List.append_assoc, List.singleton_append]
  rw [same] at derivation
  have accepted : parse wide whole = .ok tree :=
    parse_eq_ok_of_derivation (Nat.le_max_right _ _) (Nat.le_max_right _ _) derivation
  exact within (exceeded_of_wider (rejected _) (Nat.le_max_left _ _) (Nat.le_max_left _ _) accepted)

/-- Tokens that spell no tree are rejected, and not because of a limit. -/
theorem parse_rejects (deep : tokens.length ≤ limits.maxDepth)
    (tall : tokens.length ≤ limits.maxHeight) (incomplete : ¬ Complete (Token.lexemes tokens)) :
    ∃ fault, parse limits tokens = .error fault ∧ ¬ limits.Exceeded fault := by
  cases answer : parse limits tokens with
  | ok tree =>
    obtain ⟨_, derivation, _⟩ := parse_eq_ok_iff_within.mp answer
    exact (incomplete ⟨tree, ⟨derivation⟩⟩).elim
  | error fault => exact ⟨fault, rfl, not_exceeded deep tall answer⟩

/-- A fault points at the first token with which the tokens cannot be continued, or at their end if
they can. -/
theorem parse_blames_first (deep : tokens.length ≤ limits.maxDepth)
    (tall : tokens.length ≤ limits.maxHeight) :
    (¬ Complete (Token.lexemes tokens) → Viable (Token.lexemes tokens) →
      ∃ fault, parse limits tokens = .error fault ∧
        fault.AtEnd (Parse.finish tokens) tokens) ∧
    (¬ Viable (Token.lexemes tokens) →
      ∃ index token fault, tokens[index]? = some token ∧
        ¬ Viable (Token.lexemes (tokens.take (index + 1))) ∧
        (∀ before < index, Viable (Token.lexemes (tokens.take (before + 1)))) ∧
        parse limits tokens = .error fault ∧ fault.PointsAt token) := by
  constructor
  · intro incomplete viable
    obtain ⟨fault, rejected, within⟩ := parse_rejects deep tall incomplete
    rcases parse_breaks rejected within with ⟨ends, _⟩ | ⟨used, token, rest, rfl, -, -, again⟩
    · exact ⟨fault, rejected, ends⟩
    · rw [List.append_cons, Token.lexemes_append] at viable
      exact (not_viable_of_rejected within again viable.of_append).elim
  · intro stuck
    obtain ⟨fault, rejected, within⟩ :=
      parse_rejects deep tall fun complete => stuck complete.viable
    rcases parse_breaks rejected within with ⟨-, viable⟩ | ⟨used, token, rest, rfl, points, viable,
      again⟩
    · exact (stuck viable).elim
    · refine ⟨used.length, token, fault, ?_, ?_, fun before earlier => ?_, rejected, points⟩
      · rw [List.getElem?_append_right (Nat.le_refl _), Nat.sub_self]
        rfl
      · have through : (used ++ token :: rest).take (used.length + 1) = used ++ [token] := by
          rw [List.append_cons]
          exact List.take_left' (List.length_append ..)
        rw [through]
        exact not_viable_of_rejected within again
      · rw [List.take_append_of_le_length earlier]
        rw [← List.take_append_drop (before + 1) used, Token.lexemes_append] at viable
        exact viable.of_append

/-- A sum without its second term is blamed at its end, and one of its tokens if a closing
parenthesis takes the place of that term. -/
theorem parse_half_sum :
    let limits : Limits := {}
    let sum := Token.spelling [.number 1, .symbol .plus]
    let closed := sum ++ [⟨.symbol .closeParen, .point 0⟩]
    (sum.length ≤ limits.maxDepth ∧ closed.length ≤ limits.maxDepth) ∧
      (∃ fault, parse limits sum = .error fault ∧ fault.AtEnd (Parse.finish sum) sum) ∧
      ∃ token ∈ closed, ∃ fault, parse limits closed = .error fault ∧ fault.PointsAt token := by
  intro limits sum closed
  have incomplete : ¬ Complete (Token.lexemes sum) := by
    rintro ⟨tree, ⟨derivation⟩⟩
    have accepted : (parse limits sum).isOk = true := by
      rw [parse_eq_ok_of_derivation (by decide) (by decide) derivation]
      rfl
    have rejected : (parse limits sum).isOk = false := by decide +kernel
    rw [rejected] at accepted
    cases accepted
  have viable : Viable (Token.lexemes sum) := by
    have one : Derivation .term [.number 1] (.literal 1) := .unary (.primary (.number 1))
    exact ⟨[.number 1], _, ⟨.sum (Or.inl (Eq.refl BinaryOp.add)) (.term one) one⟩⟩
  let fault := ParseFault.unexpectedToken .operand (.symbol .closeParen) (.point 0)
  have again (ahead : List Token) :
      parse limits (sum ++ ⟨.symbol .closeParen, .point 0⟩ :: ahead) = .error fault := by
    have unsigned : Binary64.isNegative 1 = false := by decide
    have run : Run limits (Parse.finish (sum ++ ⟨.symbol .closeParen, .point 0⟩ :: ahead))
        (.expression 0) 0 (sum ++ ⟨.symbol .closeParen, .point 0⟩ :: ahead)
        (.failed fault 0 ahead) := by
      refine .expression (.number ?_) (Nat.zero_le _) ?_
      · rw [signsPower, unsigned, Bool.false_and]
      · exact .rightFailed (Lexeme.operator?_symbol .add) (by decide)
          (.operandFailed (.stray (by decide) (by decide)))
    exact parse_eq_of_run run
  have within : ¬ limits.Exceeded fault := not_false
  have stuck : ¬ Viable (Token.lexemes closed) := not_viable_of_rejected within again
  have located := @parse_blames_first limits closed (by decide) (by decide)
  obtain ⟨index, token, fault, found, -, -, rejected, points⟩ := located.2 stuck
  exact ⟨by decide, (@parse_blames_first limits sum (by decide) (by decide)).1 incomplete viable,
    token, List.mem_of_getElem? found, fault, rejected, points⟩

end Calculator
