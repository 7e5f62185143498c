import Calculator.Proofs.Parse.Language
import Calculator.Proofs.Parse.Sessions

/-! # Which parentheses match

Parentheses are matched by the usual stack, which looks at no other token: an opening one is put on
it, and a closing one takes off the last. What the grammar spells leaves the stack as it was. So
where the parser reads on to the end and misses a closing parenthesis, the one it blames is the last
that was put on the stack, and where a closing parenthesis follows a whole expression, nothing is on
it.
-/

namespace Calculator

/-- Parentheses without a partner. -/
structure Unmatched where
  /-- The opening ones, the last one first. -/
  opening : List Token
  /-- The closing ones, the first one first. -/
  closing : List Token
deriving DecidableEq, Repr

namespace Unmatched

/-- An opening parenthesis waits for a partner, and a closing one takes the last that waits. -/
def scan (unmatched : Unmatched) (token : Token) : Unmatched :=
  match token.lexeme with
  | .symbol .openParen => { unmatched with opening := token :: unmatched.opening }
  | .symbol .closeParen =>
    match unmatched.opening with
    | [] => { unmatched with closing := unmatched.closing ++ [token] }
    | _ :: opening => { unmatched with opening := opening }
  | _ => unmatched

/-- The parentheses among some tokens that have no partner there. -/
def among (tokens : List Token) : Unmatched := tokens.foldl scan ⟨[], []⟩

variable {unmatched : Unmatched} {token : Token} {place opening closing : Span}
  {tokens rest inside : List Token}

theorem scan_openParen :
    unmatched.scan ⟨.symbol .openParen, place⟩ =
      ⟨⟨.symbol .openParen, place⟩ :: unmatched.opening, unmatched.closing⟩ := rfl

theorem scan_other (notOpen : token.lexeme ≠ .symbol .openParen)
    (notClose : token.lexeme ≠ .symbol .closeParen) : unmatched.scan token = unmatched := by
  unfold scan
  split
  case h_1 opens => exact (notOpen opens).elim
  case h_2 closes => exact (notClose closes).elim
  case h_3 => rfl

/-- An operator is no parenthesis. -/
theorem ne_paren_of_operator? {lexeme : Lexeme} {op : BinaryOp}
    (operator : lexeme.operator? = some op) :
    lexeme ≠ .symbol .openParen ∧ lexeme ≠ .symbol .closeParen := by
  constructor
  · rintro rfl
    cases operator
  · rintro rfl
    cases operator

/-- The first closing parenthesis without a partner stays the first. -/
theorem head?_closing_foldl (found : unmatched.closing.head? = some token) (rest : List Token) :
    (rest.foldl scan unmatched).closing.head? = some token := by
  induction rest generalizing unmatched with
  | nil => exact found
  | cons next rest ih =>
    apply ih
    unfold scan
    split
    · exact found
    · split
      · rw [List.head?_append, found, Option.some_or]
      · exact found
    · exact found

/-- Tokens change no stack: all their parentheses have partners among them. -/
def Matched (tokens : List Token) : Prop :=
  ∀ unmatched : Unmatched, tokens.foldl scan unmatched = unmatched

/-- Tokens leave an opening parenthesis at `place` as the last one that waits, and no closing one
without a partner. -/
def LeavesOpen (place : Span) (tokens : List Token) : Prop :=
  ∀ unmatched : Unmatched, ∃ before, tokens.foldl scan unmatched =
    ⟨⟨.symbol .openParen, place⟩ :: before, unmatched.closing⟩

namespace Matched

theorem append (first : Matched tokens) (second : Matched rest) : Matched (tokens ++ rest) := by
  intro unmatched
  rw [List.foldl_append, first, second]

theorem cons (notOpen : token.lexeme ≠ .symbol .openParen)
    (notClose : token.lexeme ≠ .symbol .closeParen) (behind : Matched rest) :
    Matched (token :: rest) := by
  intro unmatched
  rw [List.foldl_cons, scan_other notOpen notClose, behind]

theorem nil : Matched [] := fun _ => rfl

theorem group (inner : Matched inside) (opening closing : Span) :
    Matched (⟨.symbol .openParen, opening⟩ :: (inside ++ [⟨.symbol .closeParen, closing⟩])) := by
  intro unmatched
  rw [List.foldl_cons, scan_openParen, List.foldl_append, inner]
  rfl

theorem leavesOpen (inner : Matched inside) (opening : Span) :
    LeavesOpen opening (⟨.symbol .openParen, opening⟩ :: inside) := by
  intro unmatched
  rw [List.foldl_cons, scan_openParen, inner]
  exact ⟨_, rfl⟩

end Matched

namespace LeavesOpen

theorem append (used : Matched tokens) (behind : LeavesOpen place rest) :
    LeavesOpen place (tokens ++ rest) := by
  intro unmatched
  rw [List.foldl_append, used]
  exact behind unmatched

theorem cons (notClose : token.lexeme ≠ .symbol .closeParen) (behind : LeavesOpen place rest) :
    LeavesOpen place (token :: rest) := by
  intro unmatched
  by_cases opens : token.lexeme = .symbol .openParen
  · obtain ⟨lexeme, opening⟩ := token
    cases opens
    exact behind _
  · rw [List.foldl_cons, scan_other opens notClose]
    exact behind unmatched

end LeavesOpen

end Unmatched

namespace Grammar

open Unmatched

variable {stratum : Stratum} {words : List Lexeme} {tree : Expr} {room : Nat}
  {tokens first second : List Token} {place : Span}

/-- An operation matches its parentheses on either side of its operator. -/
theorem matched_operation (op : BinaryOp) (left : Matched first) (right : Matched second) :
    Matched (first ++ ⟨.symbol op.symbol, place⟩ :: second) := by
  obtain ⟨notOpen, notClose⟩ := ne_paren_of_operator? (Lexeme.operator?_symbol op)
  exact left.append (right.cons notOpen notClose)

/-- What the grammar spells matches its parentheses. -/
theorem Derivation.matched (derivation : Derivation stratum words tree)
    (spelled : Token.lexemes tokens = words) : Matched tokens := by
  induction derivation generalizing tokens with
  | number value =>
    obtain ⟨place, rfl⟩ := Token.of_lexemes_eq_singleton spelled
    exact Matched.nil.cons (by simp) (by simp)
  | group _ ih =>
    obtain ⟨opening, body, closing, inside, rfl⟩ := Token.of_lexemes_eq_group spelled
    exact (ih inside).group opening closing
  | call name _ ih =>
    obtain ⟨place, rest, rfl, called⟩ := Token.of_lexemes_eq_cons spelled
    obtain ⟨opening, body, closing, inside, rfl⟩ := Token.of_lexemes_eq_group called
    exact ((ih inside).group opening closing).cons (by simp) (by simp)
  | primary _ ih | unary _ ih | term _ ih => exact ih spelled
  | negate _ ih =>
    obtain ⟨place, rest, rfl, follows⟩ := Token.of_lexemes_eq_cons spelled
    exact (ih follows).cons (by simp) (by simp)
  | signedPower _ _ ih =>
    obtain ⟨place, rest, rfl, more⟩ := Token.of_lexemes_eq_cons spelled
    obtain ⟨caret, exponent, rfl, follows⟩ := Token.of_lexemes_eq_cons more
    exact ((ih follows).cons (by simp) (by simp)).cons (by simp) (by simp)
  | power _ _ _ ihLeft ihRight =>
    obtain ⟨base, rest, rfl, starts, more⟩ := Token.of_lexemes_eq_append spelled
    obtain ⟨caret, exponent, rfl, follows⟩ := Token.of_lexemes_eq_cons more
    exact matched_operation .pow (ihLeft starts) (ihRight follows)
  | product _ _ _ ihLeft ihRight | sum _ _ _ ihLeft ihRight =>
    obtain ⟨lhs, rest, rfl, starts, more⟩ := Token.of_lexemes_eq_append spelled
    obtain ⟨sign, rhs, rfl, follows⟩ := Token.of_lexemes_eq_cons more
    exact matched_operation _ (ihLeft starts) (ihRight follows)

theorem SpellsWithin.matched (spelled : SpellsWithin room stratum (Token.lexemes tokens) tree) :
    Matched tokens := by
  obtain ⟨derivation, -⟩ := spelled
  exact derivation.matched rfl

end Grammar

namespace Parse

open Grammar Unmatched

variable {limits : Limits} {finish : Span} {task : Task} {depth level : Nat}
  {tokens left : List Token} {reading : Reading} {opening place : Span}

/-- Where parentheses are not closed, the tokens end in them, or in parentheses inside them. -/
theorem Reading.leavesOpen_of_close
    (run : Run limits finish (.nested opening 0) depth tokens reading)
    (inner : ∀ level left, reading = .failed (.unclosedParenthesis place) level left →
      LeavesOpen place tokens)
    (failed : reading.close opening depth = .failed (.unclosedParenthesis place) level left) :
    LeavesOpen place (⟨.symbol .openParen, opening⟩ :: tokens) := by
  cases reading with
  | failed fault level' left' =>
    cases failed
    exact (inner _ _ rfl).cons (by simp)
  | done tree last rest =>
    obtain ⟨-, spells⟩ := Run.spelled run rfl
    obtain ⟨used, rfl, -, -, spelled⟩ := spells (Nat.zero_le _)
    cases rest with
    | nil =>
      cases failed
      rw [List.append_nil]
      exact spelled.matched.leavesOpen opening
    | cons token rest =>
      unfold Reading.close at failed
      dsimp only at failed
      split at failed <;> cases failed

/-- A run that misses a closing parenthesis has come to the end, and the one it blames is the last
that waits there. -/
theorem Run.leavesOpen (run : Run limits finish task depth tokens reading)
    (failed : reading = .failed (.unclosedParenthesis place) level left) :
    LeavesOpen place tokens := by
  induction run generalizing level left with
  | operandMissing | number | signedPowerDeep | stray | callEnds | callUnopened | operandTall
  | nestedDeep | stop | rightTall => cases failed
  | signedPower _ _ _ ih => exact (ih (Reading.map_eq_failed.mp failed)).cons (by simp)
  | negate _ ih => exact (ih (Reading.map_eq_failed.mp failed)).cons (by simp)
  | group run ih => exact Reading.leavesOpen_of_close run (fun _ _ => ih) failed
  | call run ih =>
    have closed := Reading.map_eq_failed.mp failed
    exact (Reading.leavesOpen_of_close run (fun _ _ => ih) closed).cons (by simp)
  | operandFailed _ ih =>
    cases failed
    exact ih rfl
  | expression first _ _ _ ih =>
    obtain ⟨used, _, rfl, -, spelled, -⟩ := Run.spelled first rfl
    exact (ih failed).append spelled.matched
  | nested _ _ ih => exact ih failed
  | rightFailed operator _ _ ih =>
    cases failed
    exact (ih rfl).cons (ne_paren_of_operator? operator).2
  | extend operator _ right _ _ _ ih =>
    obtain ⟨-, used, rfl, -, -, spelled⟩ := Spelled.of_right (Run.spelled right rfl)
    exact ((ih failed).append spelled.matched).cons (ne_paren_of_operator? operator).2

end Parse

open Grammar Parse Unmatched

variable {limits : Limits} {tokens : List Token} {place : Span}

/-- Where a parenthesis is not closed, the last one that waits for a partner is blamed, and every
closing one has found its own. -/
theorem among_of_unclosed
    (rejected : parse limits tokens = .error (.unclosedParenthesis place)) :
    (among tokens).closing = [] ∧
      (among tokens).opening.head? = some ⟨.symbol .openParen, place⟩ := by
  rcases exists_run_of_error rejected with ⟨tree, last, token, rest, -, blames⟩ | ⟨level, left, run⟩
  · rcases surplus_cases token with ⟨-, same⟩ | ⟨-, same⟩ <;> cases same.symm.trans blames
  · obtain ⟨before, same⟩ := run.leavesOpen rfl ⟨[], []⟩
    rw [among, same]
    exact ⟨rfl, rfl⟩

/-- Where a closing parenthesis has no partner, the first such one is blamed, and every parenthesis
before it has a partner. -/
theorem among_of_unmatched
    (rejected : parse limits tokens = .error (.unmatchedParenthesis place)) :
    ∃ before after, tokens = before ++ ⟨.symbol .closeParen, place⟩ :: after ∧
      among before = ⟨[], []⟩ ∧
      (among tokens).closing.head? = some ⟨.symbol .closeParen, place⟩ := by
  rcases exists_run_of_error rejected with
    ⟨tree, last, ⟨lexeme, place'⟩, rest, run, blames⟩ | ⟨level, left, run⟩
  · obtain ⟨used, rfl, -, -, spelled⟩ := Run.spelled run rfl (Nat.zero_le _)
    rcases surplus_cases ⟨lexeme, place'⟩ with ⟨closes, same⟩ | ⟨-, same⟩
    · cases closes
      cases same.symm.trans blames
      have nothing : among used = ⟨[], []⟩ := spelled.matched _
      refine ⟨used, rest, rfl, nothing, ?_⟩
      rw [among, List.foldl_append, spelled.matched]
      exact head?_closing_foldl rfl rest
    · cases same.symm.trans blames
  · exact run.passes.2.elim

/-- Faults about parentheses blame those that a stack finds to have no partner, and tokens with such
parentheses are never read. -/
theorem parse_brackets (limits : Limits) (tokens : List Token) :
    (∀ place, parse limits tokens = .error (.unclosedParenthesis place) →
      (among tokens).closing = [] ∧
        (among tokens).opening.head? = some ⟨.symbol .openParen, place⟩) ∧
    (∀ place, parse limits tokens = .error (.unmatchedParenthesis place) →
      ∃ before after, tokens = before ++ ⟨.symbol .closeParen, place⟩ :: after ∧
        among before = ⟨[], []⟩ ∧
        (among tokens).closing.head? = some ⟨.symbol .closeParen, place⟩) ∧
    ∀ tree, parse limits tokens = .ok tree → among tokens = ⟨[], []⟩ := by
  refine ⟨fun place => among_of_unclosed, fun place => among_of_unmatched, fun tree accepted => ?_⟩
  obtain ⟨-, spelled⟩ := parse_eq_ok_iff_within.mp accepted
  exact spelled.matched _

/-- An open call in an open group, a closing parenthesis behind a group, and a call. -/
theorem parse_brackets_of_calls :
    let opened : List Token := [⟨.symbol .openParen, ⟨0, 1⟩⟩, ⟨.function "sin", ⟨1, 4⟩⟩,
      ⟨.symbol .openParen, ⟨4, 5⟩⟩, ⟨.symbol .openParen, ⟨5, 6⟩⟩, ⟨.number 1, ⟨6, 7⟩⟩,
      ⟨.symbol .closeParen, ⟨7, 8⟩⟩]
    let surplus : List Token := [⟨.symbol .openParen, ⟨0, 1⟩⟩, ⟨.number 1, ⟨1, 2⟩⟩,
      ⟨.symbol .closeParen, ⟨2, 3⟩⟩, ⟨.symbol .closeParen, ⟨3, 4⟩⟩, ⟨.symbol .openParen, ⟨4, 5⟩⟩]
    let closed : List Token := [⟨.function "sin", ⟨0, 3⟩⟩, ⟨.symbol .openParen, ⟨3, 4⟩⟩,
      ⟨.number 1, ⟨4, 5⟩⟩, ⟨.symbol .closeParen, ⟨5, 6⟩⟩]
    (parse {} opened = .error (.unclosedParenthesis ⟨4, 5⟩) ∧
      (among opened).opening.head? = some ⟨.symbol .openParen, ⟨4, 5⟩⟩) ∧
    (parse {} surplus = .error (.unmatchedParenthesis ⟨3, 4⟩) ∧
      (among surplus).closing.head? = some ⟨.symbol .closeParen, ⟨3, 4⟩⟩) ∧
    (parse {} closed = .ok (.call "sin" (.literal 1)) ∧ among closed = ⟨[], []⟩) := by
  intro opened surplus closed
  have blamed : parse {} opened = .error (.unclosedParenthesis ⟨4, 5⟩) := by decide +kernel
  have blamed' : parse {} surplus = .error (.unmatchedParenthesis ⟨3, 4⟩) := by decide +kernel
  have read : parse {} closed = .ok (.call "sin" (.literal 1)) := by decide +kernel
  obtain ⟨-, -, -, -, first⟩ := (parse_brackets {} surplus).2.1 _ blamed'
  exact ⟨⟨blamed, ((parse_brackets {} opened).1 _ blamed).2⟩, ⟨blamed', first⟩, read,
    (parse_brackets {} closed).2.2 _ read⟩

end Calculator
