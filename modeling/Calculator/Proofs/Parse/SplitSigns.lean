import Calculator.Proofs.Expr.Value
import Calculator.Proofs.Parse.Followers
import Calculator.Proofs.Parse.Viable

/-! # Signs that are split off numbers

A tokenizer joins a minus sign to the number after it. Where it does, nothing that ends like an
operand stands before the number, so the parser is about to read an operand there. Words in which
such signs stand apart again are therefore read step by step as the joined ones are: into a tree in
which each number with a sign has become a negation, or into a fault of the same kind. Negations of
numbers have the values of numbers with signs, so the answer is the same.
-/

namespace Calculator

/-- A word, with the sign of a number apart. -/
def Lexeme.splitSign : Lexeme → List Lexeme
  | number value =>
    if Binary64.isNegative value then [.symbol .minus, .number (-value)] else [.number value]
  | word => [word]

/-- Words, with the signs of numbers apart. -/
def Lexeme.splitSigns (words : List Lexeme) : List Lexeme := words.flatMap splitSign

namespace Lexeme

variable {value : Float} {word : Lexeme} {words : List Lexeme}

theorem splitSign_negative (signed : Binary64.isNegative value = true) :
    splitSign (.number value) = [.symbol .minus, .number (-value)] := if_pos signed

theorem splitSign_plain
    (plain : ∀ value, word = .number value → Binary64.isNegative value = false) :
    splitSign word = [word] := by
  cases word with
  | number value => exact if_neg (Bool.eq_false_iff.mp (plain value rfl))
  | symbol | function => rfl

theorem splitSigns_cons : splitSigns (word :: words) = splitSign word ++ splitSigns words :=
  List.flatMap_cons

theorem length_le_splitSigns (words : List Lexeme) : words.length ≤ (splitSigns words).length := by
  induction words with
  | nil => exact Nat.le_refl _
  | cons word words ih =>
    have one : 1 ≤ word.splitSign.length := by
      unfold splitSign
      split
      · split <;> simp
      · exact Nat.le_refl _
    rw [splitSigns_cons, List.length_cons, List.length_append]
    omega

end Lexeme

namespace Expr

/-- A tree, with negations in place of the numbers that have a sign. -/
def splitSigns : Expr → Expr
  | literal value =>
    if Binary64.isNegative value then negate (literal (-value)) else literal value
  | binary op lhs rhs => binary op lhs.splitSigns rhs.splitSigns
  | negate operand => negate operand.splitSigns
  | call function argument => call function argument.splitSigns

theorem splitSigns_unsigned {value : Float} (unsigned : Binary64.isNegative value = false) :
    (literal value).splitSigns = literal value := if_neg (Bool.eq_false_iff.mp unsigned)

/-- A negated number has the value of the number with its sign. -/
theorem denote_splitSigns (tree : Expr) : tree.splitSigns.denote = tree.denote := by
  induction tree with
  | literal value =>
    rw [splitSigns]
    split
    case isTrue signed =>
      change Except.ok (- -value) = Except.ok value
      rw [Binary64.neg_neg_of_number (Binary64.isNaN_eq_false signed)]
    case isFalse => rfl
  | binary op lhs rhs ihLeft ihRight => rw [splitSigns, denote, denote, ihLeft, ihRight]
  | negate operand ih => rw [splitSigns, denote, denote, ih]
  | call function argument ih => rw [splitSigns, denote, denote, ih]

end Expr

namespace Parse

open Grammar Lexeme

theorem isNegative_neg_of_negative {value : Float} (signed : Binary64.isNegative value = true) :
    Binary64.isNegative (-value) = false := by
  rw [Binary64.isNegative_neg (Binary64.isNaN_eq_false signed), signed]
  rfl

/-- Tokens that say what others say, with the signs of numbers apart. -/
def SplitAs (tokens split : List Token) : Prop :=
  Token.lexemes split = splitSigns (Token.lexemes tokens)

/-- A reading of the joined words and one of the split words. -/
def Reading.SplitAs : Reading → Reading → Prop
  | done tree _ rest, done tree' _ rest' => tree' = tree.splitSigns ∧ Parse.SplitAs rest rest'
  | failed fault _ _, failed fault' _ _ => fault'.code = fault.code
  | _, _ => False

/-- A task on the joined words and one on the split words. -/
inductive Task.SplitAs : Task → Task → Prop
  | operand : SplitAs operand operand
  | expression (power : Nat) : SplitAs (expression power) (expression power)
  | nested (opening opening' : Span) (power : Nat) :
    SplitAs (nested opening power) (nested opening' power)
  | extend (power : Nat) (lhs : Expr) (last last' : Span) :
    SplitAs (extend power lhs last) (extend power lhs.splitSigns last')

theorem Task.SplitAs.right (op : BinaryOp) (place place' : Span) :
    (Task.right op place).SplitAs (Task.right op place') := by
  unfold Task.right
  split
  · exact .nested place place' _
  · exact .expression _

namespace SplitAs

variable {token : Token} {value : Float} {place : Span} {rest split : List Token} {word : Lexeme}

theorem nil_left (alike : SplitAs [] split) : split = [] := List.map_eq_nil_iff.mp alike

/-- A number with a sign becomes two tokens. -/
theorem negative (signed : Binary64.isNegative value = true)
    (alike : SplitAs (⟨.number value, place⟩ :: rest) split) :
    ∃ sign place' rest', split = ⟨.symbol .minus, sign⟩ :: ⟨.number (-value), place'⟩ :: rest' ∧
      SplitAs rest rest' := by
  unfold SplitAs at alike
  rw [Token.lexemes_cons, splitSigns_cons, splitSign_negative signed] at alike
  obtain ⟨sign, more, rfl, behind⟩ := Token.of_lexemes_eq_cons alike
  obtain ⟨place', rest', rfl, after⟩ := Token.of_lexemes_eq_cons behind
  exact ⟨sign, place', rest', rfl, after⟩

/-- Every other token stays one. -/
theorem plain (plain : ∀ value, word = .number value → Binary64.isNegative value = false)
    (alike : SplitAs (⟨word, place⟩ :: rest) split) :
    ∃ place' rest', split = ⟨word, place'⟩ :: rest' ∧ SplitAs rest rest' := by
  unfold SplitAs at alike
  rw [Token.lexemes_cons, splitSigns_cons, splitSign_plain plain] at alike
  exact Token.of_lexemes_eq_cons alike

theorem symbol {sign : Symbol} (alike : SplitAs (⟨.symbol sign, place⟩ :: rest) split) :
    ∃ place' rest', split = ⟨.symbol sign, place'⟩ :: rest' ∧ SplitAs rest rest' :=
  alike.plain fun _ same => by cases same

theorem function {name : String} (alike : SplitAs (⟨.function name, place⟩ :: rest) split) :
    ∃ place' rest', split = ⟨.function name, place'⟩ :: rest' ∧ SplitAs rest rest' :=
  alike.plain fun _ same => by cases same

/-- The first of the split tokens is the first joined one, or the sign of it. -/
theorem head (alike : SplitAs (token :: rest) split) :
    ∃ token' rest', split = token' :: rest' ∧
      (token'.lexeme = token.lexeme ∨
        token'.lexeme = .symbol .minus ∧ token.lexeme.startsOperand = true) := by
  obtain ⟨word, place⟩ := token
  by_cases plain : ∀ value, word = .number value → Binary64.isNegative value = false
  · obtain ⟨place', rest', rfl, -⟩ := alike.plain plain
    exact ⟨_, rest', rfl, .inl rfl⟩
  · push Not at plain
    obtain ⟨value, rfl, signed⟩ := plain
    obtain ⟨sign, place', rest', rfl, -⟩ := alike.negative (Bool.eq_true_of_not_eq_false signed)
    exact ⟨_, _, rfl, .inr ⟨rfl, rfl⟩⟩

end SplitAs

/-- Where no operand starts, an expression ends for the split tokens as for the joined ones. -/
theorem Stops.splitAs {power : Nat} {rest split : List Token} (stops : Stops power rest)
    (noOperand : NoOperand rest) (alike : SplitAs rest split) : Stops power split := by
  cases rest with
  | nil =>
    obtain rfl := alike.nil_left
    trivial
  | cons token rest =>
    obtain ⟨token', rest', rfl, same | ⟨-, starts⟩⟩ := alike.head
    · intro op operator
      rw [same] at operator
      exact stops op operator
    · rw [noOperand token rfl] at starts
      cases starts

theorem startsWithCaret_splitAs {rest split : List Token} (alike : SplitAs rest split) :
    startsWithCaret split = startsWithCaret rest := by
  cases rest with
  | nil =>
    obtain rfl := alike.nil_left
    rfl
  | cons token rest =>
    obtain ⟨token', rest', rfl, same | ⟨minus, starts⟩⟩ := alike.head
    · rw [startsWithCaret, same, startsWithCaret]
    · have other : token.lexeme ≠ .symbol .caret := by
        intro caret
        rw [caret] at starts
        cases starts
      rw [startsWithCaret, minus, startsWithCaret, decide_eq_false other]
      rfl

theorem stops_of_noCaret {tokens : List Token} (noCaret : startsWithCaret tokens = false) :
    Stops signPower tokens := by
  cases tokens with
  | nil => trivial
  | cons token rest =>
    intro op operator
    cases op with
    | pow =>
      have caret := Lexeme.eq_symbol_of_operator? operator
      exact absurd caret (of_decide_eq_false noCaret)
    | _ => decide

theorem Reading.SplitAs.map {reading reading' : Reading} (alike : reading.SplitAs reading')
    {change : Expr → Expr}
    (commutes : ∀ tree : Expr, (change tree).splitSigns = change tree.splitSigns) :
    (reading.map change).SplitAs (reading'.map change) := by
  cases reading <;> cases reading'
  · exact ⟨(congrArg change alike.1).trans (commutes _).symm, alike.2⟩
  · exact alike
  · exact alike
  · exact alike

theorem Reading.SplitAs.close {reading reading' : Reading} (alike : reading.SplitAs reading')
    (opening opening' : Span) (depth : Nat) :
    (reading.close opening depth).SplitAs (reading'.close opening' depth) := by
  rcases reading with ⟨tree, last, rest⟩ | ⟨fault, level, rest⟩ <;>
    rcases reading' with ⟨tree', last', rest'⟩ | ⟨fault', level', rest'⟩
  · obtain ⟨rfl, alike⟩ := alike
    cases rest with
    | nil =>
      obtain rfl := alike.nil_left
      rfl
    | cons token rest =>
      obtain ⟨lexeme, place⟩ := token
      by_cases closes : lexeme = .symbol .closeParen
      · subst closes
        obtain ⟨place', rest', rfl, behind⟩ := alike.symbol
        exact ⟨rfl, behind⟩
      · obtain ⟨token', rest', rfl, other⟩ := alike.head
        have closes' : token'.lexeme ≠ .symbol .closeParen := by
          rcases other with same | ⟨minus, -⟩
          · rwa [same]
          · rw [minus]
            decide
        rw [close_other closes, close_other closes']
        rfl
  · exact alike.elim
  · exact alike.elim
  · exact alike

variable {limits wide : Limits} {finish finish' : Span} {task task' : Task} {depth : Nat}
  {tokens split rest : List Token} {reading reading' : Reading} {value : Float} {place : Span}

theorem Reading.SplitAs.done {tree : Expr} {last : Span}
    (alike : (Reading.done tree last rest).SplitAs reading) :
    ∃ last' rest', reading = .done tree.splitSigns last' rest' ∧ Parse.SplitAs rest rest' := by
  cases reading with
  | done tree' last' rest' =>
    obtain ⟨rfl, behind⟩ := alike
    exact ⟨last', rest', rfl, behind⟩
  | failed => exact alike.elim

theorem Reading.SplitAs.failed {fault : ParseFault} {level : Nat}
    (alike : (Reading.failed fault level rest).SplitAs reading) :
    ∃ fault' level' rest', reading = .failed fault' level' rest' ∧ fault'.code = fault.code := by
  cases reading with
  | done => exact alike.elim
  | failed fault' level' rest' => exact ⟨fault', level', rest', rfl, alike⟩

/-- A sign and what follows it are read as a negation of the number without the sign. -/
theorem run_negated {sign : Span} {split : List Token}
    (signed : Binary64.isNegative value = true) (room : depth + 1 ≤ wide.maxDepth)
    (more : Run wide finish (.extend signPower (.literal (-value)) place) (depth + 1) split
      reading) :
    Run wide finish .operand depth (⟨.symbol .minus, sign⟩ :: ⟨.number (-value), place⟩ :: split)
      (reading.map .negate) := by
  have unsigned : signsPower (-value) split = false := by
    rw [signsPower, isNegative_neg_of_negative signed]
    rfl
  exact .negate (.nested room (.expression (.number unsigned) (Nat.zero_le _) more))

/-- What is read of the joined words is read of the split ones, if the limits leave room for as
many tokens. -/
theorem Run.splitAs (run : Run limits finish task depth tokens reading)
    (within : ¬ reading.Exceeds limits) (fits : (Token.lexemes tokens).IsChain Fits)
    (ready : task.Ready tokens) (same : task.SplitAs task') (alike : SplitAs tokens split)
    (deep : depth + split.length ≤ wide.maxDepth)
    (tall : task'.height + split.length ≤ wide.maxHeight) :
    ∃ reading', Run wide finish' task' depth split reading' ∧ reading.SplitAs reading' := by
  induction run generalizing task' split with
  | signedPowerDeep | operandTall | nestedDeep | rightTall => exact (within rfl).elim
  | @operandMissing depth =>
    cases same
    obtain rfl := alike.nil_left
    exact ⟨_, .operandMissing, rfl⟩
  | @number depth value place rest unsigned =>
    cases same
    cases signed : Binary64.isNegative value with
    | false =>
      have plain (other : Float) (same : Lexeme.number value = .number other) :
          Binary64.isNegative other = false := by
        cases same
        exact signed
      obtain ⟨place', rest', rfl, behind⟩ := alike.plain plain
      refine ⟨_, .number ?_, (Expr.splitSigns_unsigned signed).symm, behind⟩
      rw [signsPower, signed, Bool.false_and]
    | true =>
      obtain ⟨sign, place', rest', rfl, behind⟩ := alike.negative signed
      simp only [List.length_cons] at deep
      have noCaret : startsWithCaret rest' = false := by
        rw [startsWithCaret_splitAs behind]
        rwa [signsPower, signed, Bool.true_and] at unsigned
      exact ⟨_, run_negated signed (by omega) (.stop (stops_of_noCaret noCaret)),
        (if_pos signed).symm, behind⟩
  | @signedPower depth value place rest reading signed room _ ih =>
    cases same
    obtain ⟨negative, caret⟩ := Bool.and_eq_true_iff.mp signed
    obtain ⟨sign, place', rest', rfl, behind⟩ := alike.negative negative
    simp only [List.length_cons] at deep tall
    have unsigned := Expr.splitSigns_unsigned (isNegative_neg_of_negative negative)
    rw [Reading.exceeds_map] at within
    obtain ⟨reading', run', alike'⟩ := ih within fits.tail (noOperand_of_caret caret)
      (.extend signPower (.literal (-value)) place place') behind (by omega) (by
        rw [unsigned]
        simp only [Task.height, Expr.height] at tall ⊢
        omega)
    rw [unsigned] at run'
    exact ⟨_, run_negated negative (by omega) run', alike'.map fun _ => rfl⟩
  | @negate depth place rest reading _ ih =>
    cases same
    obtain ⟨place', rest', rfl, behind⟩ := alike.symbol
    simp only [List.length_cons] at deep tall
    rw [Reading.exceeds_map] at within
    obtain ⟨reading', run', alike'⟩ := ih within fits.tail trivial (.nested place place' _) behind
      (by omega) (by simp only [Task.height] at tall ⊢; omega)
    exact ⟨_, .negate run', alike'.map fun _ => rfl⟩
  | @group depth opening rest reading _ ih =>
    cases same
    obtain ⟨opening', rest', rfl, behind⟩ := alike.symbol
    simp only [List.length_cons] at deep tall
    rw [Reading.exceeds_close] at within
    obtain ⟨reading', run', alike'⟩ := ih within fits.tail trivial (.nested opening opening' _)
      behind (by omega) (by simp only [Task.height] at tall ⊢; omega)
    exact ⟨_, .group run', alike'.close _ _ _⟩
  | @stray depth sign place rest notMinus notOpen =>
    cases same
    obtain ⟨place', rest', rfl, -⟩ := alike.symbol
    exact ⟨_, .stray notMinus notOpen, rfl⟩
  | @call depth name place opening rest reading _ ih =>
    cases same
    obtain ⟨place', rest', rfl, called⟩ := alike.function
    obtain ⟨opening', rest', rfl, behind⟩ := called.symbol
    simp only [List.length_cons] at deep tall
    rw [Reading.exceeds_map, Reading.exceeds_close] at within
    obtain ⟨reading', run', alike'⟩ := ih within fits.tail.tail trivial
      (.nested opening opening' _) behind (by omega)
      (by simp only [Task.height] at tall ⊢; omega)
    exact ⟨_, .call run', (alike'.close _ _ _).map fun _ => rfl⟩
  | @callEnds depth name place =>
    cases same
    obtain ⟨place', rest', rfl, behind⟩ := alike.function
    obtain rfl := behind.nil_left
    exact ⟨_, .callEnds, rfl⟩
  | @callUnopened depth name place token rest notOpen =>
    cases same
    obtain ⟨place', rest', rfl, behind⟩ := alike.function
    obtain ⟨token', rest', rfl, other⟩ := behind.head
    have notOpen' : token'.lexeme ≠ .symbol .openParen := by
      rcases other with same | ⟨minus, -⟩
      · rwa [same]
      · rw [minus]
        decide
    exact ⟨_, .callUnopened notOpen', rfl⟩
  | operandFailed _ ih =>
    cases same
    obtain ⟨reading', run', alike'⟩ := ih within fits trivial .operand alike deep tall
    obtain ⟨fault', level', rest', rfl, code⟩ := alike'.failed
    exact ⟨_, .operandFailed run', code⟩
  | @expression power depth tokens lhs last rest reading first low _ ihFirst ihMore =>
    cases same
    obtain ⟨reading', run', alike'⟩ := ihFirst not_false fits trivial .operand alike deep tall
    obtain ⟨last', rest', rfl, behind⟩ := alike'.done
    obtain ⟨used, stratum, rfl, -, spells, -⟩ := Run.spelled first rfl
    obtain ⟨ready, after⟩ := noOperand_of_spelled spells fits
    have height := Run.height_operand run'
    simp only [Task.height] at tall
    obtain ⟨reading'', run'', alike''⟩ := ihMore within after ready (.extend _ _ last last') behind
      (by omega) (by simp only [Task.height]; omega)
    exact ⟨_, .expression run' (by omega) run'', alike''⟩
  | nested _ _ ih =>
    cases same
    obtain ⟨reading', run', alike'⟩ := ih within fits trivial (.expression _) alike deep tall
    exact ⟨_, .nested (by omega) run', alike'⟩
  | stop stops =>
    cases same
    exact ⟨_, .stop (stops.splitAs ready alike), rfl, alike⟩
  | @rightFailed power lhs last depth token rest op fault _ _ operator binds _ ih =>
    cases same
    obtain ⟨word, place⟩ := token
    obtain rfl := Lexeme.eq_symbol_of_operator? operator
    obtain ⟨place', rest', rfl, behind⟩ := alike.symbol
    have level := rightDepth_le op depth
    simp only [List.length_cons] at deep tall
    obtain ⟨reading', run', alike'⟩ := ih within fits.tail (Task.ready_right ..)
      (.right op place place') behind (by omega) (by rw [Task.height_right]; omega)
    obtain ⟨fault', level', rest'', rfl, code⟩ := alike'.failed
    exact ⟨_, .rightFailed operator binds run', code⟩
  | @extend power lhs last depth token rest op rhs last' after reading operator binds right low _
      ihRight ihMore =>
    cases same
    obtain ⟨word, place⟩ := token
    obtain rfl := Lexeme.eq_symbol_of_operator? operator
    obtain ⟨place', rest', rfl, behind⟩ := alike.symbol
    have level := rightDepth_le op depth
    simp only [List.length_cons] at deep tall
    obtain ⟨reading', run', alike'⟩ := ihRight not_false fits.tail (Task.ready_right ..)
      (.right op place place') behind (by omega) (by rw [Task.height_right]; omega)
    obtain ⟨last'', after', rfl, behind'⟩ := alike'.done
    obtain ⟨-, used, rfl, -, -, spells⟩ := Spelled.of_right (Run.spelled right rfl)
    obtain ⟨ready, fits⟩ := noOperand_of_spelled spells fits.tail
    have height := Run.height_right run'
    simp only [Task.height] at tall
    obtain ⟨reading'', run'', alike''⟩ := ihMore within fits ready
      (.extend power (.binary op lhs rhs) last' last'') behind' (by omega)
      (by simp only [Task.height, Expr.splitSigns, Expr.height]; omega)
    exact ⟨_, .extend operator binds run' (by simp only [Expr.height]; omega) run'', alike''⟩

theorem surplus_splitAs {token token' : Token}
    (same : token'.lexeme = token.lexeme ∨
      token'.lexeme = .symbol .minus ∧ token.lexeme.startsOperand = true) :
    (surplus token').code = (surplus token).code := by
  rcases same with same | ⟨minus, starts⟩
  · unfold surplus
    rw [same]
    split <;> rfl
  · have other : token.lexeme ≠ .symbol .closeParen := by
      intro closes
      rw [closes] at starts
      cases starts
    rw [surplus, surplus, if_neg other, minus]
    rfl

/-- Two answers of the parser, to the joined words and to the split ones. -/
def VerdictsSplitAs : Except ParseFault Expr → Except ParseFault Expr → Prop
  | .ok tree, .ok tree' => tree' = tree.splitSigns
  | .error fault, .error fault' => fault'.code = fault.code
  | _, _ => False

theorem Reading.SplitAs.verdict (alike : reading.SplitAs reading') :
    VerdictsSplitAs reading.verdict reading'.verdict := by
  rcases reading with ⟨tree, last, rest⟩ | ⟨fault, level, rest⟩
  · obtain ⟨last', rest', rfl, behind⟩ := alike.done
    cases rest with
    | nil =>
      obtain rfl := behind.nil_left
      rfl
    | cons token rest =>
      obtain ⟨token', rest', rfl, same⟩ := behind.head
      exact surplus_splitAs same
  · obtain ⟨fault', level', rest', rfl, code⟩ := alike.failed
    exact code

end Parse

open Parse

variable {limits scanLimits : Limits} {equation : String} {tokens split : List Token}

/-- Tokens that fit together are parsed alike, whether signs are joined to numbers or not. -/
theorem parse_splitAs (fits : (Token.lexemes tokens).IsChain Lexeme.Fits)
    (alike : SplitAs tokens split) (deep : split.length ≤ limits.maxDepth)
    (tall : split.length ≤ limits.maxHeight) :
    VerdictsSplitAs (parse limits tokens) (parse limits split) := by
  have shorter : tokens.length ≤ split.length := by
    rw [← Token.length_lexemes tokens, ← Token.length_lexemes split, alike]
    exact Lexeme.length_le_splitSigns _
  obtain ⟨reading, run, verdict⟩ := parse_eq_verdict limits tokens
  have within : ¬ reading.Exceeds limits := by
    intro exceeds
    have met := run.exceeds exceeds
    simp only [Task.height] at met
    omega
  obtain ⟨reading', run', same⟩ : ∃ reading',
      Run limits (Parse.finish split) (.expression 0) 0 split reading' ∧
        reading.SplitAs reading' :=
    run.splitAs within fits trivial (.expression 0) alike (by omega)
      (by simp only [Task.height]; omega)
  rw [verdict, parse_eq_of_run run']
  exact same.verdict

/-- Whether the minus signs that a tokenizer joins to numbers are split off again or not, the
tokens of an equation are accepted or rejected alike, and with the same answer. -/
theorem parse_signs_split (accepted : tokenize scanLimits equation = .ok tokens)
    (alike : Token.lexemes split = Lexeme.splitSigns (Token.lexemes tokens))
    (deep : split.length ≤ limits.maxDepth) (tall : split.length ≤ limits.maxHeight) :
    ((∃ tree', parse limits split = .ok tree') ↔ ∃ tree, parse limits tokens = .ok tree) ∧
      (∀ fault fault', parse limits tokens = .error fault → parse limits split = .error fault' →
        fault'.code = fault.code) ∧
      ∀ tree tree', parse limits tokens = .ok tree → parse limits split = .ok tree' →
        tree' = tree.splitSigns ∧ tree'.evaluate limits = tree.evaluate limits := by
  obtain ⟨-, -, compatible⟩ := tokenize_eq_ok_iff.mp accepted
  have fits := Token.firstClash?_eq_none_iff.mp compatible
  have verdicts : VerdictsSplitAs (parse limits tokens) (parse limits split) :=
    parse_splitAs fits alike deep tall
  cases joined : parse limits tokens with
  | error fault =>
    cases apart : parse limits split with
    | error fault' =>
      rw [joined, apart] at verdicts
      refine ⟨by simp, ?_, (by rintro _ _ ⟨⟩)⟩
      rintro _ _ ⟨⟩ ⟨⟩
      exact verdicts
    | ok tree' =>
      rw [joined, apart] at verdicts
      exact verdicts.elim
  | ok tree =>
    cases apart : parse limits split with
    | error fault' =>
      rw [joined, apart] at verdicts
      exact verdicts.elim
    | ok tree' =>
      rw [joined, apart] at verdicts
      refine ⟨by simp, (by rintro _ _ ⟨⟩), ?_⟩
      rintro _ _ ⟨⟩ ⟨⟩
      refine ⟨verdicts, Expr.evaluate_congr (parse_eq_ok_iff_within.mp apart).1
        (parse_eq_ok_iff_within.mp joined).1 ?_⟩
      rw [verdicts, Expr.denote_splitSigns]

/-- In a product with a negated power, the sign of the base and that of the exponent can be split
off. -/
theorem parse_signs_split_of_power :
    let words : List Lexeme :=
      [.number 2, .symbol .star, .number (-3), .symbol .caret, .number (-0.0)]
    let apart : List Lexeme := [.number 2, .symbol .star, .symbol .minus, .number 3,
      .symbol .caret, .symbol .minus, .number 0]
    let product (exponent : Expr) : Expr :=
      .binary .mul (.literal 2) (.negate (.binary .pow (.literal 3) exponent))
    ∃ tokens, tokenize {} "2*-3^-0" = .ok tokens ∧ Token.lexemes tokens = words ∧
      Lexeme.splitSigns words = apart ∧ parse {} tokens = .ok (product (.literal (-0.0))) ∧
      parse {} (Token.spelling apart) = .ok (product (.negate (.literal 0))) ∧
      (product (.negate (.literal 0))).evaluate {} = (product (.literal (-0.0))).evaluate {} := by
  intro words apart product
  have scanned : (tokenize {} "2*-3^-0").toOption.map Token.lexemes = some words := by
    decide +kernel
  obtain ⟨tokens, same, lexemes⟩ := Option.map_eq_some_iff.mp scanned
  have accepted : tokenize {} "2*-3^-0" = .ok tokens := eq_ok_of_toOption same
  have split : Lexeme.splitSigns words = apart := by decide +kernel
  have alike : Token.lexemes (Token.spelling apart) =
      Lexeme.splitSigns (Token.lexemes tokens) := by
    rw [Token.lexemes_spelling, lexemes, split]
  have parsed : parse {} (Token.spelling apart) = .ok (product (.negate (.literal 0))) :=
    eq_ok_of_toOption (by decide +kernel)
  have answers := @parse_signs_split {} {} "2*-3^-0" tokens (Token.spelling apart) accepted alike
    (by decide) (by decide)
  obtain ⟨tree, joined⟩ := answers.1.mp ⟨_, parsed⟩
  obtain ⟨-, value⟩ := answers.2.2 tree _ joined parsed
  have unsplit : tree = product (.literal (-0.0)) := by
    have read : (tokenize {} "2*-3^-0").toOption.bind (fun tokens => (parse {} tokens).toOption) =
        some (product (.literal (-0.0))) := by decide +kernel
    rw [accepted] at read
    change (parse {} tokens).toOption = _ at read
    rw [joined] at read
    exact Option.some.inj read
  subst unsplit
  exact ⟨tokens, accepted, lexemes, split, joined, parsed, value⟩

end Calculator
