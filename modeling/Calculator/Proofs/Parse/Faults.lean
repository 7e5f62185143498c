import Calculator.Proofs.Parse.Lookahead

/-! # Where a run fails

A run that fails, and not because of a limit, fails for one of two reasons. Either the tokens end
where they could go on, or there is a first token that is out of place: what stands before it could
go on in another way, and the run fails on it whatever follows.
-/

namespace Calculator

/-- Whether a fault says that the tokens end too early. -/
def ParseFault.AtEnd (finish : Span) (tokens : List Token) : ParseFault → Prop
  | .unexpectedEnd _ place | .missingParenthesis _ place => place = finish
  | .unclosedParenthesis opening => ⟨.symbol .openParen, opening⟩ ∈ tokens
  | _ => False

/-- Whether a fault points at a token. -/
def ParseFault.PointsAt (token : Token) : ParseFault → Prop
  | .unexpectedToken _ found place | .trailingInput found place => token = ⟨found, place⟩
  | .unmatchedParenthesis place => token = ⟨.symbol .closeParen, place⟩
  | .missingParenthesis _ place => token.span = place
  | _ => False

theorem ParseFault.AtEnd.append {finish : Span} {tokens : List Token} {fault : ParseFault}
    (ends : fault.AtEnd finish tokens) (before : List Token) :
    fault.AtEnd finish (before ++ tokens) := by
  cases fault with
  | unclosedParenthesis => exact List.mem_append_right before ends
  | _ => exact ends

namespace Grammar

/-- Words can be continued to words of a stratum. -/
def Opens (stratum : Stratum) (words : List Lexeme) : Prop :=
  ∃ more room tree, SpellsWithin room stratum (words ++ more) tree

namespace Opens

variable {stratum inner : Stratum} {words : List Lexeme}

theorem of_spells {room : Nat} {tree : Expr} (spelled : SpellsWithin room stratum words tree) :
    Opens stratum words :=
  ⟨[], room, tree, by rwa [List.append_nil]⟩

theorem widen (opens : Opens inner words) (looser : stratum.bound ≤ inner.bound) :
    Opens stratum words := by
  obtain ⟨more, room, tree, spelled⟩ := opens
  exact ⟨more, room, tree, spelled.widen looser⟩

theorem viable (opens : Opens .expr words) : Viable words := by
  obtain ⟨more, _, tree, derivation, _⟩ := opens
  exact ⟨more, tree, ⟨derivation⟩⟩

theorem negate (opens : Opens .unary words) : Opens .unary (.symbol .minus :: words) := by
  obtain ⟨more, room, tree, spelled⟩ := opens
  exact ⟨more, room + 1, .negate tree, spelled.negate (Nat.lt_succ_self _)⟩

theorem group (opens : Opens .expr words) : Opens .primary (.symbol .openParen :: words) := by
  obtain ⟨more, room, tree, spelled⟩ := opens
  refine ⟨more ++ [.symbol .closeParen], room + 1, tree, ?_⟩
  rw [List.cons_append, ← List.append_assoc]
  exact spelled.group (Nat.lt_succ_self _)

theorem call (name : String) (opens : Opens .expr words) :
    Opens .primary (.function name :: .symbol .openParen :: words) := by
  obtain ⟨more, room, tree, spelled⟩ := opens
  refine ⟨more ++ [.symbol .closeParen], room + 1, .call name tree, ?_⟩
  rw [List.cons_append, List.cons_append, ← List.append_assoc]
  exact spelled.call name (Nat.lt_succ_self _)

theorem number (value : Float) : Opens .primary [.number value] :=
  of_spells ⟨.number value, Nat.le_refl 0⟩

theorem nil : Opens .primary [] := ⟨[.number 0], 0, .literal 0, .number 0, Nat.le_refl 0⟩

theorem of_append {more : List Lexeme} (opens : Opens stratum (words ++ more)) :
    Opens stratum words := by
  obtain ⟨rest, room, tree, spelled⟩ := opens
  exact ⟨more ++ rest, room, tree, by rwa [← List.append_assoc]⟩

theorem function (name : String) : Opens .primary [.function name] :=
  of_append (call name (nil.widen (by decide)))

theorem operator {op : BinaryOp} {room : Nat} {lhs : Expr} {words' : List Lexeme}
    (left : SpellsWithin room inner words lhs) (takes : op.leftPower ≤ inner.bound)
    (plain : op = .pow → ¬ IsSignedNumber words) (right : Opens (.ofPower op.rightPower) words') :
    Opens (.ofOperator op) (words ++ .symbol op.symbol :: words') := by
  obtain ⟨more, within, rhs, spelled⟩ := right
  refine ⟨more, max room (within + 1), .binary op lhs rhs, ?_⟩
  rw [List.append_assoc, List.cons_append]
  have fits : within < max room (within + 1) := Nat.le_max_right _ _
  exact (left.mono (Nat.le_max_left _ _)).operator takes plain spelled (Nat.le_of_lt fits)
    fun _ => fits

theorem signedPower {value : Float} (signed : Binary64.isNegative value = true)
    (opens : Opens .unary (.number (-value) :: .symbol .caret :: words)) :
    Opens .unary (.number value :: .symbol .caret :: words) := by
  obtain ⟨more, room, tree, spelled⟩ := opens
  exact ⟨more, room + 1, .negate tree, spelled.signedPower signed (Nat.lt_succ_self _)⟩

end Opens

end Grammar

namespace Parse

open Grammar

/-- Whether the tokens that a task has used can be continued to what it reads. -/
def Task.Opens (limits : Limits) (depth : Nat) (tokens used : List Token) : Task → Prop
  | operand => Grammar.Opens .unary (Token.lexemes used)
  | expression power | nested _ power => power ≤ Stratum.unary.bound →
    Grammar.Opens (.ofPower power) (Token.lexemes used)
  | extend power lhs _ => power ≤ Stratum.unary.bound → ∀ before stratum,
    SpellsWithin (limits.maxDepth - depth) stratum before lhs → Ends stratum before tokens →
    power ≤ stratum.bound → Grammar.Opens (.ofPower power) (before ++ Token.lexemes used)

theorem Task.Opens.of_right {limits : Limits} {depth : Nat} {tokens used : List Token}
    {op : BinaryOp} {place : Span} (opens : (Task.right op place).Opens limits depth tokens used) :
    Grammar.Opens (.ofPower op.rightPower) (Token.lexemes used) := by
  unfold Task.right at opens
  split at opens <;> exact opens (Stratum.rightPower_le op)

/-- How a task fails for another reason than a limit. -/
inductive Breaks (limits : Limits) (finish : Span) (task : Task) (depth : Nat)
    (tokens : List Token) (fault : ParseFault) : Prop
  | atEnd (ends : fault.AtEnd finish tokens) (opens : task.Opens limits depth tokens tokens)
  | atToken (used : List Token) (token : Token) (rest : List Token)
    (split : tokens = used ++ token :: rest) (points : fault.PointsAt token)
    (opens : task.Opens limits depth tokens used)
    (replay : ∀ other ahead, ∃ depth' left,
      Run limits other task depth (used ++ token :: ahead) (.failed fault depth' left))

variable {limits : Limits} {finish : Span} {tree : Expr} {last : Span} {depth level : Nat}
  {tokens rest : List Token} {task inner outer : Task} {reading : Reading}
  {fault : ParseFault}

/-- A task fails as the task inside it does. -/
theorem Breaks.within (before : List Token)
    (breaks : Breaks limits finish inner level tokens fault)
    (opens : ∀ used rest, tokens = used ++ rest → inner.Opens limits level tokens used →
      outer.Opens limits depth (before ++ tokens) (before ++ used))
    (replay : ∀ other ahead depth' left, ahead.head? = tokens.head? →
      Run limits other inner level ahead (.failed fault depth' left) →
      ∃ depth' left, Run limits other outer depth (before ++ ahead) (.failed fault depth' left)) :
    Breaks limits finish outer depth (before ++ tokens) fault := by
  cases breaks with
  | atEnd ends inside =>
    exact .atEnd (ends.append before) (opens tokens [] (List.append_nil _).symm inside)
  | atToken used token rest split points inside again =>
    refine .atToken (before ++ used) token rest (by rw [split, List.append_assoc]) points
      (opens used _ split inside) fun other ahead => ?_
    obtain ⟨depth', left, run⟩ := again other ahead
    rw [List.append_assoc]
    refine replay other _ depth' left ?_ run
    rw [split]
    exact head?_append_congr used rfl

/-- What parentheses hold breaks as the expression in them does, or at the first token that does
not close them. -/
theorem Breaks.closed (before : List Token) {opening : Span} {depth' : Nat} {left : List Token}
    (run : Run limits finish (.nested opening 0) level tokens reading)
    (breaks : ∀ fault depth' left, reading = .failed fault depth' left →
      ¬ limits.Exceeded fault → Breaks limits finish (.nested opening 0) level tokens fault)
    (failed : reading.close opening level = .failed fault depth' left)
    (within : ¬ limits.Exceeded fault) (member : ⟨.symbol .openParen, opening⟩ ∈ before)
    (opens : ∀ used, Grammar.Opens .expr (Token.lexemes used) →
      Grammar.Opens .primary (Token.lexemes (before ++ used)))
    (replay : ∀ other ahead reading, Run limits other (.nested opening 0) level ahead reading →
      ∃ change, Run limits other .operand depth (before ++ ahead)
        ((reading.close opening level).map change)) :
    Breaks limits finish .operand depth (before ++ tokens) fault := by
  cases reading with
  | done tree last rest =>
    obtain ⟨-, spells⟩ := Run.spelled run rfl
    obtain ⟨used, rfl, -, -, spelled⟩ := spells (by decide)
    have opened : Grammar.Opens .unary (Token.lexemes (before ++ used)) :=
      (opens used (.of_spells spelled)).widen (by decide)
    cases rest with
    | nil =>
      cases failed
      rw [List.append_nil]
      exact .atEnd (List.mem_append_left used member) opened
    | cons token rest =>
      have notClose : token.lexeme ≠ .symbol .closeParen := by
        intro closes
        rw [Reading.close, if_pos closes] at failed
        cases failed
      rw [Reading.close_other notClose] at failed
      cases failed
      refine .atToken (before ++ used) token left (by rw [List.append_assoc]) rfl opened
        fun other ahead => ?_
      obtain ⟨used', split, again⟩ := run.lookahead rfl
      obtain rfl := List.append_cancel_right split
      obtain ⟨change, run'⟩ := replay other _ _ (again other (token :: ahead) rfl)
      rw [Reading.close_other notClose] at run'
      rw [List.append_assoc]
      exact ⟨level, ahead, run'⟩
  | failed inside depth'' left' =>
    cases failed
    refine (breaks fault depth' left rfl within).within before ?_ ?_
    · intro used rest _ inside
      exact (opens used (inside (by decide))).widen (by decide)
    · intro other ahead depth' left _ run
      obtain ⟨change, run'⟩ := replay other ahead _ run
      exact ⟨depth', left, run'⟩

/-- A run that fails, and not because of a limit, fails at the end or at a first token. -/
theorem Run.breaks (run : Run limits finish task depth tokens reading) {depth' : Nat}
    {left : List Token} (failed : reading = .failed fault depth' left)
    (within : ¬ limits.Exceeded fault) : Breaks limits finish task depth tokens fault := by
  induction run generalizing fault depth' left with
  | number | stop => cases failed
  | signedPowerDeep | operandTall | nestedDeep | rightTall =>
    cases failed
    exact (within rfl).elim
  | operandMissing =>
    cases failed
    exact .atEnd rfl (Grammar.Opens.nil.widen (by decide))
  | @signedPower depth value place rest reading signed room _ ih =>
    rw [Reading.map_eq_failed] at failed
    obtain ⟨negative, caret⟩ := Bool.and_eq_true_iff.mp signed
    refine (ih failed within).within [⟨.number value, place⟩] ?_ ?_
    · intro used more split opens
      subst split
      cases used with
      | nil => exact (Grammar.Opens.number value).widen (by decide)
      | cons token used =>
        obtain ⟨lexeme, sign⟩ := token
        obtain rfl : lexeme = .symbol .caret := of_decide_eq_true caret
        have alone : signsPower (-value) (⟨.symbol .caret, sign⟩ :: used ++ more) = false := by
          rw [signsPower, Binary64.isNegative_neg (Binary64.isNaN_eq_false negative), negative]
          rfl
        exact Grammar.Opens.signedPower negative (opens (by decide) [.number (-value)] .primary
          ⟨.number (-value), Nat.zero_le _⟩ (ends_number alone) (by decide))
    · intro other ahead depth' left alike run
      have signed' : signsPower value ahead = true := by rwa [signsPower_congr alike]
      exact ⟨depth', left, .signedPower signed' room run⟩
  | @negate depth place rest reading _ ih =>
    rw [Reading.map_eq_failed] at failed
    refine (ih failed within).within [⟨.symbol .minus, place⟩] ?_ ?_
    · intro used _ _ opens
      exact (opens (by decide)).negate
    · intro other ahead depth' left _ run
      exact ⟨depth', left, .negate run⟩
  | @group depth opening rest reading run ih =>
    refine Breaks.closed [⟨.symbol .openParen, opening⟩] run ?_ failed within
      (List.mem_singleton_self _) ?_ ?_
    · intro fault depth' left failed within
      exact ih failed within
    · intro used opens
      exact opens.group
    · intro other ahead reading run
      refine ⟨id, ?_⟩
      rw [Reading.map_id]
      exact .group run
  | @call depth name place opening rest reading run ih =>
    rw [Reading.map_eq_failed] at failed
    refine Breaks.closed [⟨.function name, place⟩, ⟨.symbol .openParen, opening⟩] run ?_ failed
      within (by simp) ?_ ?_
    · intro fault depth' left failed within
      exact ih failed within
    · intro used opens
      exact opens.call name
    · intro other ahead reading run
      exact ⟨_, .call run⟩
  | @stray depth sign place rest notMinus notOpen =>
    cases failed
    exact .atToken [] ⟨.symbol sign, place⟩ rest rfl rfl (Grammar.Opens.nil.widen (by decide))
      fun other ahead => ⟨depth, ahead, .stray notMinus notOpen⟩
  | @callEnds depth name place =>
    cases failed
    exact .atEnd rfl ((Grammar.Opens.function name).widen (by decide))
  | @callUnopened depth name place token rest notOpen =>
    cases failed
    exact .atToken [⟨.function name, place⟩] token rest rfl rfl
      ((Grammar.Opens.function name).widen (by decide))
      fun other ahead => ⟨depth, ahead, .callUnopened notOpen⟩
  | @operandFailed power depth tokens fault' _ _ _ ih =>
    cases failed
    refine (ih rfl within).within [] ?_ ?_
    · intro used _ _ opens weak
      exact opens.widen (Stratum.bound_ofPower_le weak)
    · intro other ahead depth' left _ run
      exact ⟨depth', left, .operandFailed run⟩
  | @expression power depth tokens lhs last rest reading first low _ _ ih =>
    obtain ⟨used, stratum, rfl, tight, spells, ends⟩ := Run.spelled first rfl
    obtain ⟨used', split, again⟩ := first.lookahead rfl
    obtain rfl := List.append_cancel_right split
    refine (ih failed within).within used ?_ ?_
    · intro more _ _ opens weak
      rw [Token.lexemes_append]
      exact opens weak _ stratum spells ends (Nat.le_trans weak tight)
    · intro other ahead depth' left alike run
      exact ⟨depth', left, .expression (again other ahead alike) low run⟩
  | @nested opening power depth tokens reading room _ ih =>
    refine (ih failed within).within [] ?_ ?_
    · intro used _ _ opens
      exact opens
    · intro other ahead depth' left _ run
      exact ⟨depth', left, .nested room run⟩
  | @rightFailed power lhs last depth token rest op fault' _ _ operator binds _ ih =>
    cases failed
    refine (ih rfl within).within [token] ?_ ?_
    · intro used _ _ opens weak before stratum spells ends _
      obtain ⟨takes, plain⟩ := ends.takes operator
      rw [List.singleton_append, Token.lexemes_cons, Lexeme.eq_symbol_of_operator? operator]
      have operation := Grammar.Opens.operator spells takes plain opens.of_right
      exact operation.widen (Stratum.bound_ofPower_le (Stratum.le_bound_ofOperator binds weak))
    · intro other ahead depth' left _ run
      exact ⟨depth', left, .rightFailed operator binds run⟩
  | @extend _ _ _ _ token _ _ _ _ _ _ operator binds right low _ _ ih =>
    obtain ⟨used, split, again⟩ := right.lookahead rfl
    subst split
    refine (ih failed within).within (token :: used) ?_ ?_
    · intro more _ _ opens weak before stratum spells ends _
      obtain ⟨used', split, left, ends'⟩ :=
        spells_operation operator spells ends (Run.spelled right rfl)
      obtain rfl := List.append_cancel_right split
      rw [Token.lexemes_append, ← List.append_assoc]
      exact opens weak _ _ left ends' (Stratum.le_bound_ofOperator binds weak)
    · intro other ahead depth' left alike run
      exact ⟨depth', left, .extend operator binds (again other ahead alike) low run⟩

end Parse

open Grammar Parse

variable {limits : Limits} {tokens : List Token} {fault : ParseFault}

theorem surplus_pointsAt (token : Token) : (surplus token).PointsAt token := by
  obtain ⟨lexeme, place⟩ := token
  unfold surplus
  split
  case isTrue closes =>
    cases closes
    rfl
  case isFalse => rfl

/-- Tokens that are rejected, and not because of a limit, either end too early or have a first token
out of place, on which the parser fails whatever follows. -/
theorem parse_breaks (rejected : parse limits tokens = .error fault)
    (within : ¬ limits.Exceeded fault) :
    (fault.AtEnd (Parse.finish tokens) tokens ∧ Viable (Token.lexemes tokens)) ∨
      ∃ used token rest, tokens = used ++ token :: rest ∧ fault.PointsAt token ∧
        Viable (Token.lexemes used) ∧
        ∀ ahead, parse limits (used ++ token :: ahead) = .error fault := by
  rcases exists_run_of_error rejected with ⟨tree, last, token, rest, run, rfl⟩ | ⟨depth, left, run⟩
  · obtain ⟨used, rfl, again⟩ := run.lookahead rfl
    obtain ⟨used', split, -, -, spelled⟩ := Run.spelled run rfl (Nat.zero_le _)
    obtain rfl := List.append_cancel_right split
    refine .inr ⟨used, token, rest, rfl, surplus_pointsAt token, ?_, fun ahead => ?_⟩
    · exact (Opens.of_spells spelled).viable
    · exact parse_eq_of_run (again _ (token :: ahead) rfl)
  · cases run.breaks rfl within with
    | atEnd ends opens => exact .inl ⟨ends, (opens (Nat.zero_le _)).viable⟩
    | atToken used token rest split points opens replay =>
      refine .inr ⟨used, token, rest, split, points, (opens (Nat.zero_le _)).viable, ?_⟩
      intro ahead
      obtain ⟨depth', left, run⟩ := replay (Parse.finish (used ++ token :: ahead)) ahead
      exact parse_eq_of_run run

end Calculator
