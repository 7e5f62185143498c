import Calculator.Proofs.Number.Sign
import Calculator.Proofs.Parse.Complete

/-! # What the parser reads, the grammar spells

By induction on a run: a tree that the parser reads from some tokens is spelled by them, with as
much nesting as the limit leaves room for. The invariant of the loop over operators is that the
tree read so far is spelled by a stratum which the next operator, if it takes a left side, takes
as a whole.
-/

namespace Calculator.Grammar

open Parse

/-- The stratum of the expressions that are read at some power. -/
def Stratum.ofPower (power : Nat) : Stratum :=
  if power ≤ Stratum.expr.bound then expr else if power ≤ Stratum.term.bound then term else unary

/-- The stratum of the operations of an operator. -/
def Stratum.ofOperator : BinaryOp → Stratum
  | .add | .sub => expr
  | .mul | .div => term
  | .pow => unary

namespace Stratum

theorem le_bound_ofPower {power : Nat} (weak : power ≤ unary.bound) :
    power ≤ (ofPower power).bound := by
  unfold ofPower
  split
  · assumption
  · split <;> assumption

theorem bound_ofPower_le {power : Nat} {stratum : Stratum} (within : power ≤ stratum.bound) :
    (ofPower power).bound ≤ stratum.bound := by
  unfold ofPower
  split
  · cases stratum <;> decide
  · split
    · cases stratum with
      | expr => contradiction
      | term | unary | primary => decide
    · cases stratum with
      | expr | term => contradiction
      | unary | primary => decide

theorem le_bound_ofOperator {op : BinaryOp} {power : Nat} (binds : power ≤ op.leftPower)
    (weak : power ≤ unary.bound) : power ≤ (ofOperator op).bound := by
  cases op with
  | add | sub | mul | div => exact binds
  | pow => exact weak

theorem rightPower_le_bound (op : BinaryOp) :
    op.rightPower ≤ (ofOperator op).bound + 1 := by
  cases op <;> decide

theorem rightPower_le (op : BinaryOp) : op.rightPower ≤ unary.bound := by
  cases op <;> decide

end Stratum

/-- A power of a number without a sign is nothing but that. -/
theorem Derivation.power_inv {value : Float} {words : List Lexeme} {tree : Expr}
    (unsigned : Binary64.isNegative value = false)
    (derivation : Derivation .unary (.number value :: .symbol .caret :: words) tree) :
    ∃ (exponent : Expr) (right : Derivation .unary words exponent),
      tree = .binary .pow (.literal value) exponent ∧ 1 + right.nest ≤ derivation.nest := by
  generalize spelled : Lexeme.number value :: .symbol .caret :: words = whole at derivation
  cases derivation with
  | primary inner => cases inner <;> cases spelled
  | power plain left right =>
    cases left with
    | number =>
      cases spelled
      exact ⟨_, right, rfl, Nat.le_max_right _ _⟩
    | group | call => cases spelled
  | signedPower signed =>
    cases spelled
    rw [unsigned] at signed
    cases signed
  | negate => cases spelled

/-- Words spell a tree with no more nesting than there is room for. -/
def SpellsWithin (room : Nat) (stratum : Stratum) (words : List Lexeme) (tree : Expr) : Prop :=
  ∃ derivation : Derivation stratum words tree, derivation.nest ≤ room

namespace SpellsWithin

variable {room : Nat} {stratum inner : Stratum} {words words' : List Lexeme} {tree : Expr}

theorem mono {large : Nat} (spelled : SpellsWithin room stratum words tree) (le : room ≤ large) :
    SpellsWithin large stratum words tree := by
  obtain ⟨derivation, shallow⟩ := spelled
  exact ⟨derivation, Nat.le_trans shallow le⟩

/-- Words of a stratum are words of every looser one. -/
theorem widen (spelled : SpellsWithin room inner words tree)
    (looser : stratum.bound ≤ inner.bound) : SpellsWithin room stratum words tree := by
  obtain ⟨derivation, shallow⟩ := spelled
  cases stratum <;> cases inner <;> first
    | exact ⟨derivation, shallow⟩
    | exact absurd looser (by decide)
    | exact ⟨.primary derivation, shallow⟩
    | exact ⟨.unary derivation, shallow⟩
    | exact ⟨.term derivation, shallow⟩
    | exact ⟨.unary (.primary derivation), shallow⟩
    | exact ⟨.term (.unary derivation), shallow⟩
    | exact ⟨.term (.unary (.primary derivation)), shallow⟩

theorem negate {within : Nat} (operand : SpellsWithin within .unary words tree)
    (opens : within < room) :
    SpellsWithin room .unary (.symbol .minus :: words) (.negate tree) := by
  obtain ⟨derivation, shallow⟩ := operand
  refine ⟨.negate derivation, ?_⟩
  rw [Derivation.nest]
  omega

theorem group {within : Nat} (inside : SpellsWithin within .expr words tree)
    (opens : within < room) :
    SpellsWithin room .primary (.symbol .openParen :: (words ++ [.symbol .closeParen])) tree := by
  obtain ⟨derivation, shallow⟩ := inside
  refine ⟨.group derivation, ?_⟩
  rw [Derivation.nest]
  omega

theorem call {within : Nat} (name : String) (argument : SpellsWithin within .expr words tree)
    (opens : within < room) :
    SpellsWithin room .primary
      (.function name :: .symbol .openParen :: (words ++ [.symbol .closeParen]))
      (.call name tree) := by
  obtain ⟨derivation, shallow⟩ := argument
  refine ⟨.call name derivation, ?_⟩
  rw [Derivation.nest]
  omega

/-- A power of a number without a sign is nothing but that, so with the sign back it is a negated
power. -/
theorem signedPower {within : Nat} {value : Float} (signed : Binary64.isNegative value = true)
    (power : SpellsWithin within .unary (.number (-value) :: .symbol .caret :: words) tree)
    (opens : within < room) :
    SpellsWithin room .unary (.number value :: .symbol .caret :: words) (.negate tree) := by
  have unsigned : Binary64.isNegative (-value) = false := by
    rw [Binary64.isNegative_neg (Binary64.isNaN_eq_false signed), signed]
    rfl
  obtain ⟨derivation, shallow⟩ := power
  obtain ⟨exponent, right, rfl, less⟩ := derivation.power_inv unsigned
  refine ⟨.signedPower signed right, ?_⟩
  rw [Derivation.nest]
  omega

/-- An operation is spelled by its operands, if its operator takes the left one as a whole. -/
theorem operator {op : BinaryOp} {within : Nat} {lhs rhs : Expr}
    (left : SpellsWithin room inner words lhs) (takes : op.leftPower ≤ inner.bound)
    (plain : op = .pow → ¬ IsSignedNumber words)
    (right : SpellsWithin within (.ofPower op.rightPower) words' rhs) (fits : within ≤ room)
    (opens : op = .pow → within < room) :
    SpellsWithin room (.ofOperator op) (words ++ .symbol op.symbol :: words')
      (.binary op lhs rhs) := by
  cases op with
  | add | sub =>
    obtain ⟨first, shallow⟩ : SpellsWithin room .expr words lhs := left.widen takes
    obtain ⟨second, narrow⟩ : SpellsWithin within .term words' rhs := right
    refine ⟨.sum (by decide) first second, ?_⟩
    exact Nat.max_le.mpr ⟨shallow, Nat.le_trans narrow fits⟩
  | mul | div =>
    obtain ⟨first, shallow⟩ : SpellsWithin room .term words lhs := left.widen takes
    obtain ⟨second, narrow⟩ : SpellsWithin within .unary words' rhs := right
    refine ⟨.product (by decide) first second, ?_⟩
    exact Nat.max_le.mpr ⟨shallow, Nat.le_trans narrow fits⟩
  | pow =>
    have tightest : Stratum.primary.bound ≤ inner.bound := by
      revert takes
      cases inner <;> decide
    obtain ⟨first, shallow⟩ : SpellsWithin room .primary words lhs := left.widen tightest
    obtain ⟨second, narrow⟩ : SpellsWithin within .unary words' rhs := right
    have deeper : within < room := opens rfl
    exact ⟨.power (plain rfl) first second, Nat.max_le.mpr ⟨shallow, by omega⟩⟩

end SpellsWithin

/-- Words read before, and tokens read up to the rest, spell a tree at some power. -/
def SpellsTo (limits : Limits) (depth power : Nat) (before : List Lexeme) (tokens : List Token)
    (tree : Expr) (rest : List Token) : Prop :=
  ∃ used, tokens = used ++ rest ∧ tree.height ≤ limits.maxHeight ∧ Stops power rest ∧
    SpellsWithin (limits.maxDepth - depth) (.ofPower power) (before ++ Token.lexemes used) tree

/-- What is known of the tokens that a task has used up once it is done. -/
def Spelled (limits : Limits) (depth : Nat) (tokens : List Token) (tree : Expr)
    (rest : List Token) : Task → Prop
  | .operand => ∃ used stratum, tokens = used ++ rest ∧ Stratum.unary.bound ≤ stratum.bound ∧
    SpellsWithin (limits.maxDepth - depth) stratum (Token.lexemes used) tree ∧
    Ends stratum (Token.lexemes used) rest
  | .expression power => power ≤ Stratum.unary.bound →
    SpellsTo limits depth power [] tokens tree rest
  | .nested _ power => depth ≤ limits.maxDepth ∧ (power ≤ Stratum.unary.bound →
    SpellsTo limits depth power [] tokens tree rest)
  | .extend power lhs _ => power ≤ Stratum.unary.bound → ∀ before stratum,
    SpellsWithin (limits.maxDepth - depth) stratum before lhs → Ends stratum before tokens →
    power ≤ stratum.bound → lhs.height ≤ limits.maxHeight →
    SpellsTo limits depth power before tokens tree rest

variable {limits : Limits} {finish : Span} {tree : Expr} {depth : Nat} {rest tokens : List Token}

theorem ends_primary {words : List Lexeme}
    (plain : startsWithCaret rest = true → ¬ IsSignedNumber words) :
    Ends .primary words rest := by
  refine ⟨?_, plain⟩
  cases rest with
  | nil => trivial
  | cons token rest =>
    intro op _
    cases op <;> decide

/-- A number that is read alone stands before no power, unless it has no sign. -/
theorem ends_number {value : Float} (unsigned : signsPower value rest = false) :
    Ends .primary [.number value] rest := by
  apply ends_primary
  rintro caret ⟨other, same, signed⟩
  cases same
  simp [signsPower, signed, caret] at unsigned

/-- What is read to the right of an operator, at the level that the operator opens. -/
theorem Spelled.of_right {op : BinaryOp} {place : Span}
    (spelled : Spelled limits (rightDepth op depth) tokens tree rest (.right op place)) :
    (op = .pow → depth < limits.maxDepth) ∧
      SpellsTo limits (rightDepth op depth) op.rightPower [] tokens tree rest := by
  unfold Task.right at spelled
  split at spelled
  case isTrue pow =>
    obtain ⟨room, spells⟩ := spelled
    rw [rightDepth, if_pos pow] at room
    exact ⟨fun _ => room, spells (Stratum.rightPower_le op)⟩
  case isFalse other => exact ⟨fun pow => absurd pow other, spelled (Stratum.rightPower_le op)⟩

/-- An operator after words of a stratum takes them as a whole. -/
theorem Ends.takes {op : BinaryOp} {token : Token} {stratum : Stratum} {before : List Lexeme}
    (ends : Ends stratum before (token :: tokens)) (operator : token.lexeme.operator? = some op) :
    op.leftPower ≤ stratum.bound ∧ (op = .pow → ¬ IsSignedNumber before) := by
  refine ⟨Nat.le_of_lt_succ (ends.stops op operator), ?_⟩
  rintro rfl
  exact ends.plain (decide_eq_true (Lexeme.eq_symbol_of_operator? operator))

/-- An operator and what is read to its right are spelled together with the words before them. -/
theorem spells_operation {op : BinaryOp} {place : Span} {token : Token} {stratum : Stratum}
    {before : List Lexeme} {lhs : Expr} (operator : token.lexeme.operator? = some op)
    (left : SpellsWithin (limits.maxDepth - depth) stratum before lhs)
    (ends : Ends stratum before (token :: tokens))
    (right : Spelled limits (rightDepth op depth) tokens tree rest (.right op place)) :
    ∃ used, tokens = used ++ rest ∧
      SpellsWithin (limits.maxDepth - depth) (.ofOperator op)
        (before ++ Token.lexemes (token :: used)) (.binary op lhs tree) ∧
      Ends (.ofOperator op) (before ++ Token.lexemes (token :: used)) rest := by
  obtain ⟨room, used, rfl, -, stops, spells⟩ := Spelled.of_right right
  obtain ⟨takes, plain⟩ := ends.takes operator
  have opens : op = .pow → limits.maxDepth - rightDepth op depth < limits.maxDepth - depth := by
    intro pow
    have := room pow
    rw [rightDepth, if_pos pow]
    omega
  have fits : limits.maxDepth - rightDepth op depth ≤ limits.maxDepth - depth := by
    unfold rightDepth
    split <;> omega
  refine ⟨used, rfl, ?_, .of_stops (stops.mono (Stratum.rightPower_le_bound op)) ?_⟩
  · rw [Token.lexemes_cons, Lexeme.eq_symbol_of_operator? operator]
    exact left.operator takes plain spells fits opens
  · cases op <;> decide

/-- What the parser reads is spelled by the tokens it uses up. -/
theorem Run.spelled {task : Task} {reading : Reading}
    (run : Run limits finish task depth tokens reading) {last : Span}
    (success : reading = .done tree last rest) :
    Spelled limits depth tokens tree rest task := by
  induction run generalizing tree last rest with
  | operandMissing | signedPowerDeep | stray | callEnds | callUnopened | operandFailed
  | operandTall | nestedDeep | rightFailed | rightTall => cases success
  | @number depth value place rest unsigned =>
    cases success
    exact ⟨[⟨.number value, place⟩], .primary, rfl, by decide, ⟨.number value, Nat.zero_le _⟩,
      ends_number unsigned⟩
  | @signedPower depth value place rest' reading signed room _ ih =>
    obtain ⟨inner, done, rfl⟩ := Reading.map_eq_done.mp success
    obtain ⟨negative, caret⟩ := Bool.and_eq_true_iff.mp signed
    have alone : signsPower (-value) rest' = false := by
      rw [signsPower, Binary64.isNegative_neg (Binary64.isNaN_eq_false negative), negative]
      rfl
    obtain ⟨used, rfl, -, stops, spells⟩ := ih done (by decide) [.number (-value)] .primary
      ⟨.number (-value), Nat.zero_le _⟩ (ends_number alone) (by decide) (Nat.zero_le _)
    cases used with
    | nil => simp [startsWithCaret_eq_false (stops.mono (by decide))] at caret
    | cons token used =>
      obtain ⟨lexeme, sign⟩ := token
      obtain rfl : lexeme = .symbol .caret := of_decide_eq_true caret
      exact ⟨⟨.number value, place⟩ :: ⟨.symbol .caret, sign⟩ :: used, .unary, rfl, Nat.le_refl _,
        SpellsWithin.signedPower negative spells (by omega),
        .of_stops (stops.mono (by decide)) (by decide)⟩
  | @negate depth place rest' reading inner ih =>
    obtain ⟨tree, done, rfl⟩ := Reading.map_eq_done.mp success
    obtain ⟨room, spells⟩ := ih done
    obtain ⟨used, rfl, -, stops, operand⟩ := spells (by decide)
    exact ⟨⟨.symbol .minus, place⟩ :: used, .unary, rfl, Nat.le_refl _,
      SpellsWithin.negate operand (by omega), .of_stops (stops.mono (by decide)) (by decide)⟩
  | @group depth opening rest' reading _ ih =>
    obtain ⟨before, done⟩ := Reading.close_eq_done.mp success
    obtain ⟨room, spells⟩ := ih done
    obtain ⟨used, rfl, -, -, inside⟩ := spells (by decide)
    refine ⟨⟨.symbol .openParen, opening⟩ :: (used ++ [⟨.symbol .closeParen, last⟩]), .primary,
      by simp, by decide, ?_, ends_primary ?_⟩
    · rw [Token.lexemes_cons, Token.lexemes_append]
      exact SpellsWithin.group inside (by omega)
    · rintro - ⟨value, same, -⟩
      cases same
  | @call depth name place opening rest' reading _ ih =>
    obtain ⟨argument, closed, rfl⟩ := Reading.map_eq_done.mp success
    obtain ⟨before, done⟩ := Reading.close_eq_done.mp closed
    obtain ⟨room, spells⟩ := ih done
    obtain ⟨used, rfl, -, -, inside⟩ := spells (by decide)
    refine ⟨⟨.function name, place⟩ :: ⟨.symbol .openParen, opening⟩ ::
      (used ++ [⟨.symbol .closeParen, last⟩]), .primary, by simp, by decide, ?_, ends_primary ?_⟩
    · rw [Token.lexemes_cons, Token.lexemes_cons, Token.lexemes_append]
      exact SpellsWithin.call name inside (by omega)
    · rintro - ⟨value, same, -⟩
      cases same
  | expression _ low _ ihFirst ihMore =>
    intro weak
    obtain ⟨first, stratum, rfl, tight, spells, ends⟩ := ihFirst rfl
    obtain ⟨second, rfl, low', stops, whole⟩ := ihMore success weak _ stratum spells ends
      (Nat.le_trans weak tight) low
    refine ⟨first ++ second, (List.append_assoc ..).symm, low', stops, ?_⟩
    rwa [Token.lexemes_append]
  | nested room _ ih => exact ⟨room, ih success⟩
  | stop stops =>
    cases success
    intro weak before stratum spells _ tight low
    refine ⟨[], rfl, low, stops, ?_⟩
    rw [Token.lexemes_nil, List.append_nil]
    exact spells.widen (Stratum.bound_ofPower_le tight)
  | @extend power lhs last depth token rest' op rhs last' after reading operator binds right low _
      ihRight ihMore =>
    intro weak before stratum spells ends _ _
    obtain ⟨first, rfl, left, ends'⟩ := spells_operation operator spells ends (ihRight rfl)
    obtain ⟨second, rfl, low', stops, whole⟩ := ihMore success weak _ _ left ends'
      (Stratum.le_bound_ofOperator binds weak) low
    refine ⟨token :: (first ++ second), by simp, low', stops, ?_⟩
    rwa [← List.cons_append, Token.lexemes_append, ← List.append_assoc]

end Calculator.Grammar
