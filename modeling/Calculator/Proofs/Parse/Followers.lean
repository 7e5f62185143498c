import Calculator.Proofs.Parse.Language
import Calculator.Proofs.Parse.Neighbours
import Calculator.Solve

/-! # What follows an expression

Where all neighbours fit together, no operand starts behind an expression, since an expression ends
like an operand. What stops the parser behind a whole expression is then a closing parenthesis or
the end. So two of its faults come only from tokens that a tokenizer has refused before: that input
is left over, and that something else stands where parentheses should close.
-/

namespace Calculator

namespace Parse

open Grammar Lexeme

variable {limits : Limits} {finish : Span} {task : Task} {depth level room power : Nat}
  {tokens used rest left : List Token} {reading : Reading} {tree : Expr} {last opening : Span}
  {fault : ParseFault} {stratum : Stratum}

/-- Whether no operand starts with the next token. -/
def NoOperand (tokens : List Token) : Prop :=
  ∀ token ∈ tokens.head?, token.lexeme.startsOperand = false

theorem noOperand_of_caret (caret : startsWithCaret tokens = true) : NoOperand tokens := by
  cases tokens with
  | nil => cases caret
  | cons token rest =>
    rintro _ ⟨⟩
    rw [of_decide_eq_true caret]
    rfl

/-- Behind what the grammar spells, no operand starts. -/
theorem noOperand_of_spelled (spelled : SpellsWithin room stratum (Token.lexemes used) tree)
    (fits : (Token.lexemes (used ++ rest)).IsChain Fits) :
    NoOperand rest ∧ (Token.lexemes rest).IsChain Fits := by
  obtain ⟨derivation, -⟩ := spelled
  obtain ⟨last, isLast, ends⟩ := derivation.phrase.ends
  rw [Token.lexemes_append, List.isChain_append] at fits
  obtain ⟨-, after, seam⟩ := fits
  refine ⟨fun token first => ?_, after⟩
  have next : token.lexeme ∈ (Token.lexemes rest).head? := by
    rw [Token.lexemes, List.head?_map, first]
    rfl
  have apart := (seam last isLast token.lexeme next).1
  rwa [ends, Bool.true_and] at apart

/-- Whether a task starts where the next token cannot be an operand unless it reads one. -/
def Task.Ready (tokens : List Token) : Task → Prop
  | extend .. => NoOperand tokens
  | _ => True

theorem Task.ready_right (op : BinaryOp) (place : Span) (tokens : List Token) :
    (Task.right op place).Ready tokens := by
  unfold Task.right
  split <;> trivial

/-- A token that neither starts an operand nor is an operator closes parentheses. -/
theorem closes_of_stops {token : Token} (stops : Stops 0 (token :: rest))
    (noOperand : NoOperand (token :: rest)) : token.lexeme = .symbol .closeParen := by
  have notStart := noOperand token rfl
  obtain ⟨lexeme, place⟩ := token
  cases lexeme with
  | number value => cases notStart
  | function name => cases notStart
  | symbol sign =>
    cases operator : BinaryOp.ofSymbol? sign with
    | some op => exact absurd (stops op operator) (Nat.not_lt_zero _)
    | none =>
      cases sign with
      | closeParen => rfl
      | openParen => cases notStart
      | plus | minus | star | slash | caret => cases operator

/-- What stops a whole expression closes parentheses. -/
theorem closes_of_spelled {token : Token} (fits : (Token.lexemes tokens).IsChain Fits)
    (spelled : SpellsTo limits depth 0 [] tokens tree (token :: rest)) :
    token.lexeme = .symbol .closeParen := by
  obtain ⟨used, rfl, -, stops, spells⟩ := spelled
  exact closes_of_stops stops (noOperand_of_spelled spells fits).1

end Parse

/-- Whether a fault says that something stands where an expression, or the parentheses around it,
should have ended. -/
def ParseFault.IsSurplus : ParseFault → Prop
  | .trailingInput .. | .unexpectedToken .closeParen .. => True
  | _ => False

namespace Parse

open Grammar Lexeme

variable {limits : Limits} {finish : Span} {task : Task} {depth level : Nat}
  {tokens left : List Token} {reading : Reading} {opening : Span} {fault : ParseFault}

/-- Parentheses around an expression fail for want of a closing one only at the end. -/
theorem Reading.not_surplus_of_close
    (run : Run limits finish (.nested opening 0) depth tokens reading)
    (fits : (Token.lexemes tokens).IsChain Fits)
    (inner : ∀ fault level left, reading = .failed fault level left → ¬ fault.IsSurplus)
    (failed : reading.close opening depth = .failed fault level left) : ¬ fault.IsSurplus := by
  cases reading with
  | failed fault' level' left' =>
    cases failed
    exact inner _ _ _ rfl
  | done tree last rest =>
    cases rest with
    | nil =>
      cases failed
      exact not_false
    | cons token rest =>
      obtain ⟨-, spelled⟩ := Run.spelled run rfl
      have closes := closes_of_spelled fits (spelled (Nat.zero_le _))
      rw [Reading.close, if_pos closes] at failed
      cases failed

/-- Where neighbours fit together, no run fails for what follows an expression. -/
theorem Run.not_surplus (run : Run limits finish task depth tokens reading)
    (fits : (Token.lexemes tokens).IsChain Fits) (ready : task.Ready tokens)
    (failed : reading = .failed fault level left) : ¬ fault.IsSurplus := by
  induction run generalizing fault level left with
  | number | stop => cases failed
  | operandMissing | signedPowerDeep | stray | callEnds | callUnopened | operandTall | nestedDeep
  | rightTall =>
    cases failed
    exact not_false
  | signedPower signed _ _ ih =>
    -- The number is read already, and its power goes on with the caret behind it.
    apply ih fits.tail _ (Reading.map_eq_failed.mp failed)
    exact noOperand_of_caret (Bool.and_eq_true_iff.mp signed).2
  | negate _ ih => exact ih fits.tail trivial (Reading.map_eq_failed.mp failed)
  | group run ih =>
    apply Reading.not_surplus_of_close run fits.tail _ failed
    intro fault level left
    exact ih fits.tail trivial
  | call run ih =>
    apply Reading.not_surplus_of_close run fits.tail.tail _ (Reading.map_eq_failed.mp failed)
    intro fault level left
    exact ih fits.tail.tail trivial
  | operandFailed _ ih =>
    cases failed
    exact ih fits trivial rfl
  | expression first _ _ _ ih =>
    obtain ⟨used, _, rfl, -, spells, -⟩ := Run.spelled first rfl
    obtain ⟨ready, after⟩ := noOperand_of_spelled spells fits
    exact ih after ready failed
  | nested _ _ ih => exact ih fits trivial failed
  | rightFailed _ _ _ ih =>
    cases failed
    exact ih fits.tail (Task.ready_right ..) rfl
  | extend _ _ right _ _ _ ih =>
    obtain ⟨-, used, rfl, -, -, spells⟩ := Spelled.of_right (Run.spelled right rfl)
    obtain ⟨ready, after⟩ := noOperand_of_spelled spells fits.tail
    exact ih after ready failed

end Parse

open Grammar Parse

variable {limits : Limits} {tokens : List Token} {fault : ParseFault}

/-- Tokens that fit together are not rejected for what follows an expression. -/
theorem not_surplus_of_fits (fits : (Token.lexemes tokens).IsChain Lexeme.Fits)
    (rejected : parse limits tokens = .error fault) : ¬ fault.IsSurplus := by
  rcases exists_run_of_error rejected with ⟨tree, last, token, rest, run, rfl⟩ | ⟨level, left, run⟩
  · have closes := closes_of_spelled fits (Run.spelled run rfl (Nat.zero_le _))
    rw [surplus, if_pos closes]
    exact not_false
  · exact run.not_surplus fits trivial rfl

/-- Tokens with two neighbours that exclude each other are no expression. -/
theorem exists_fault_of_clash {clash : ScanFault} (clashes : Token.firstClash? tokens = some clash)
    (limits : Limits) : ∃ fault, parse limits tokens = .error fault := by
  cases answer : parse limits tokens with
  | error fault => exact ⟨fault, rfl⟩
  | ok tree =>
    obtain ⟨-, derivation, -⟩ := parse_eq_ok_iff_within.mp answer
    have compatible := Token.firstClash?_eq_none_iff.mpr derivation.phrase.fit
    rw [clashes] at compatible
    cases compatible

/-- Whether a fault is one of the stage that it is reported for. -/
def Fault.Arises (limits : Limits) (equation : String) : Fault → Prop
  | scan cause => tokenize limits equation = .error cause
  | parse cause => ∃ tokens, tokenize limits equation = .ok tokens ∧
    Calculator.parse limits tokens = .error cause
  | eval cause => ∃ tree, parseEquation limits equation = .ok tree ∧
    tree.evaluate limits = .error cause

/-- Why an equation has no answer is settled by one of three stages. -/
theorem arises_of_solve {equation : String} {fault : Fault}
    (rejected : solve limits equation = .error fault) : fault.Arises limits equation := by
  unfold solve at rejected
  split at rejected
  case h_1 fault' failed =>
    cases rejected
    unfold parseEquation at failed
    split at failed
    case h_1 cause tokenized =>
      cases failed
      exact tokenized
    case h_2 tokens tokenized =>
      split at failed
      case h_1 cause parsed =>
        cases failed
        exact ⟨tokens, tokenized, parsed⟩
      case h_2 => cases failed
  case h_2 tree accepted =>
    split at rejected
    case h_1 cause evaluated =>
      cases rejected
      exact ⟨tree, accepted, evaluated⟩
    case h_2 => cases rejected

/-- An equation that the parser rejects has tokens that fit together. -/
theorem exists_tokens_of_solve {equation : String}
    (rejected : solve limits equation = .error (.parse fault)) :
    ∃ tokens, tokenize limits equation = .ok tokens ∧ parse limits tokens = .error fault :=
  arises_of_solve rejected

/-- Tokens with two neighbours that exclude each other are rejected under all limits. Others are
never rejected for input that is left over or for something else than a closing parenthesis, and so
no equation is. -/
theorem parse_neighbours (limits : Limits) :
    (∀ tokens clash, Token.firstClash? tokens = some clash →
      ∃ fault, parse limits tokens = .error fault) ∧
    (∀ tokens fault, Token.firstClash? tokens = none → parse limits tokens = .error fault →
      ¬ fault.IsSurplus) ∧
    ∀ equation fault, solve limits equation = .error (.parse fault) → ¬ fault.IsSurplus := by
  have unreachable (tokens : List Token) (fault : ParseFault)
      (compatible : Token.firstClash? tokens = none)
      (rejected : parse limits tokens = .error fault) : ¬ fault.IsSurplus :=
    not_surplus_of_fits (Token.firstClash?_eq_none_iff.mp compatible) rejected
  refine ⟨fun tokens clash clashes => exists_fault_of_clash clashes limits, unreachable, ?_⟩
  intro equation fault rejected
  obtain ⟨tokens, tokenized, parsed⟩ := exists_tokens_of_solve rejected
  obtain ⟨-, -, compatible⟩ := tokenize_eq_ok_iff.mp tokenized
  exact unreachable tokens fault compatible parsed

/-- Two numbers in parentheses exclude each other; a number before a closing parenthesis does not,
and nothing is left over behind it. -/
theorem parse_neighbours_of_groups :
    let apart := Token.spelling
      [.symbol .openParen, .number 1, .number 2, .symbol .closeParen]
    let closed := Token.spelling [.number 1, .symbol .closeParen]
    (∃ clash, Token.firstClash? apart = some clash ∧ ∃ fault, parse {} apart = .error fault) ∧
    (∃ fault, Token.firstClash? closed = none ∧ parse {} closed = .error fault ∧
      ¬ fault.IsSurplus) ∧
    ∃ fault, solve {} "1)" = .error (.parse fault) ∧ ¬ fault.IsSurplus := by
  intro apart closed
  obtain ⟨rejects, reads, solves⟩ := parse_neighbours {}
  have clashes : Token.firstClash? apart =
      some (.missingOperator (.number 1) (.number 2) (.point 0)) := by decide +kernel
  have compatible : Token.firstClash? closed = none := by decide +kernel
  have parsed : parse {} closed = .error (.unmatchedParenthesis (.point 0)) := by decide +kernel
  have solved : solve {} "1)" = .error (.parse (.unmatchedParenthesis ⟨1, 2⟩)) := by decide +kernel
  exact ⟨⟨_, clashes, rejects apart _ clashes⟩,
    ⟨_, compatible, parsed, reads closed _ compatible parsed⟩, _, solved, solves _ _ solved⟩

end Calculator
