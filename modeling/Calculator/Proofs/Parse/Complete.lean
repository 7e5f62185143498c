import Calculator.Proofs.Parse.Grammar
import Calculator.Proofs.Parse.Run

/-! # The parser reads what the grammar spells

By induction on a derivation: reading an expression of some power that starts with the words of
the derivation comes down to extending their tree, if nothing that follows binds them first and
the limits leave room for their nesting and their height.
-/

namespace Calculator

namespace Grammar

/-- The strongest power up to which words of a stratum are read whole. -/
def Stratum.bound : Stratum → Nat
  | expr => 1
  | term => 3
  | unary => 7
  | primary => 9

/-- Words of a stratum are not bound by what follows them, unless it takes them as a whole. -/
structure Ends (stratum : Stratum) (words : List Lexeme) (rest : List Token) : Prop where
  stops : Parse.Stops (stratum.bound + 1) rest
  plain : Parse.startsWithCaret rest = true → ¬ IsSignedNumber words

theorem Ends.of_stops {stratum : Stratum} {words : List Lexeme} {rest : List Token}
    (stops : Parse.Stops (stratum.bound + 1) rest) (loose : stratum ≠ .primary) :
    Ends stratum words rest := by
  refine ⟨stops, fun caret => ?_⟩
  have bound : stratum.bound + 1 ≤ 8 := by
    cases stratum with
    | primary => exact absurd rfl loose
    | expr | term | unary => decide
  rw [Parse.startsWithCaret_eq_false (stops.mono bound)] at caret
  cases caret

variable {limits : Limits} {finish : Span} {stratum : Stratum} {words : List Lexeme} {tree : Expr}

/-- Reading tokens of a stratum comes down to extending their tree, whatever follows them. -/
def Resumes (limits : Limits) (finish : Span) (stratum : Stratum) (tokens : List Token)
    (tree : Expr) (depth : Nat) : Prop :=
  ∃ last, ∀ power rest reading, power ≤ stratum.bound → Ends stratum (Token.lexemes tokens) rest →
    Parse.Run limits finish (.extend power tree last) depth rest reading →
    Parse.Run limits finish (.expression power) depth (tokens ++ rest) reading

open Parse

/-- Tokens that are resumed are read whole where nothing extends their tree. -/
theorem Resumes.done {tokens : List Token} {depth : Nat}
    (resumes : Resumes limits finish stratum tokens tree depth) :
    ∃ last, ∀ power rest, power ≤ stratum.bound → Ends stratum (Token.lexemes tokens) rest →
      Stops power rest →
      Run limits finish (.expression power) depth (tokens ++ rest) (.done tree last rest) := by
  obtain ⟨last, resume⟩ := resumes
  exact ⟨last, fun power rest tight ends stops => resume power rest _ tight ends (.stop stops)⟩

private theorem resumes_number {value : Float} {place : Span} {depth : Nat} :
    Resumes limits finish .primary [⟨.number value, place⟩] (.literal value) depth := by
  refine ⟨place, fun power rest reading _ ends more => ?_⟩
  refine .expression (.number ?_) (Nat.zero_le _) more
  cases signed : Binary64.isNegative value with
  | false => rw [signsPower, signed, Bool.false_and]
  | true =>
    rw [signsPower, signed, Bool.true_and, Bool.eq_false_iff]
    exact fun caret => ends.plain caret ⟨value, rfl, signed⟩

private theorem closeParen_stops (power : Nat) (place : Span) (rest : List Token) :
    Stops power (⟨.symbol .closeParen, place⟩ :: rest) := .of_operator?_none rfl

private theorem nested_close {tokens : List Token} {depth : Nat} (opening closing : Span)
    (room : depth + 1 ≤ limits.maxDepth)
    (inner : Resumes limits finish .expr tokens tree (depth + 1)) (rest : List Token) :
    ∃ last, Run limits finish (.nested opening 0) (depth + 1)
      (tokens ++ ⟨.symbol .closeParen, closing⟩ :: rest)
      (.done tree last (⟨.symbol .closeParen, closing⟩ :: rest)) := by
  obtain ⟨last, done⟩ := inner.done
  have stops (power : Nat) := closeParen_stops power closing rest
  exact ⟨last, .nested room (done 0 _ (by decide) (.of_stops (stops _) (by decide)) (stops 0))⟩

private theorem resumes_group {tokens : List Token} {depth : Nat} (opening closing : Span)
    (room : depth + 1 ≤ limits.maxDepth) (low : tree.height ≤ limits.maxHeight)
    (inner : Resumes limits finish .expr tokens tree (depth + 1)) :
    Resumes limits finish .primary
      (⟨.symbol .openParen, opening⟩ :: (tokens ++ [⟨.symbol .closeParen, closing⟩])) tree
      depth := by
  refine ⟨closing, fun power rest reading _ _ more => ?_⟩
  obtain ⟨last, read⟩ := nested_close opening closing room inner rest
  rw [List.cons_append, List.append_assoc]
  exact .expression (.group read) low more

private theorem resumes_call {tokens : List Token} {depth : Nat} (name : String)
    (place opening closing : Span) (room : depth + 1 ≤ limits.maxDepth)
    (low : (Expr.call name tree).height ≤ limits.maxHeight)
    (inner : Resumes limits finish .expr tokens tree (depth + 1)) :
    Resumes limits finish .primary (⟨.function name, place⟩ :: ⟨.symbol .openParen, opening⟩ ::
      (tokens ++ [⟨.symbol .closeParen, closing⟩])) (.call name tree) depth := by
  refine ⟨closing, fun power rest reading _ _ more => ?_⟩
  obtain ⟨last, read⟩ := nested_close opening closing room inner rest
  rw [List.cons_append, List.cons_append, List.append_assoc]
  exact .expression (.call read) low more

private theorem right_done {op : BinaryOp} {tokens : List Token} {depth : Nat} (place : Span)
    (resumes : Resumes limits finish stratum tokens tree (rightDepth op depth))
    (room : op = .pow → depth + 1 ≤ limits.maxDepth) (loose : stratum ≠ .primary)
    (tight : op.rightPower ≤ stratum.bound) :
    ∃ last, ∀ rest, Stops op.rightPower rest →
      Run limits finish (.right op place) (rightDepth op depth) (tokens ++ rest)
        (.done tree last rest) := by
  obtain ⟨last, done⟩ := resumes.done
  refine ⟨last, fun rest stops => ?_⟩
  have read := done op.rightPower rest tight
    (.of_stops (stops.mono (Nat.le_succ_of_le tight)) loose) stops
  unfold Task.right
  split
  case isTrue pow =>
    have opened : rightDepth op depth = depth + 1 := if_pos pow
    rw [opened] at read ⊢
    exact .nested (room pow) read
  case isFalse => exact read

private theorem resumes_operator (op : BinaryOp) {inner outer : Stratum}
    {first second : List Token} {lhs rhs : Expr} {place : Span} {depth : Nat}
    (low : (Expr.binary op lhs rhs).height ≤ limits.maxHeight)
    (left : Resumes limits finish inner first lhs depth)
    (right : ∃ last, ∀ rest, Stops op.rightPower rest →
      Run limits finish (.right op place) (rightDepth op depth) (second ++ rest)
        (.done rhs last rest))
    (binds : ∀ rest, Ends inner (Token.lexemes first) (⟨.symbol op.symbol, place⟩ :: rest))
    (looser : outer.bound ≤ inner.bound) (outermost : outer.bound ≤ op.leftPower)
    (stops : ∀ rest, Stops (outer.bound + 1) rest → Stops op.rightPower rest) :
    Resumes limits finish outer (first ++ ⟨.symbol op.symbol, place⟩ :: second)
      (.binary op lhs rhs) depth := by
  obtain ⟨_, resume⟩ := left
  obtain ⟨last, read⟩ := right
  refine ⟨last, fun power rest reading tight ends more => ?_⟩
  rw [List.append_assoc]
  refine resume power _ reading (Nat.le_trans tight looser) (binds _) ?_
  exact .extend (Lexeme.operator?_symbol op) (Nat.le_trans tight outermost)
    (read rest (stops rest ends.stops)) low more

private theorem resumes_signedPower {value : Float} {tokens : List Token} {exponent : Expr}
    {depth : Nat} (place caret : Span) (signed : Binary64.isNegative value = true)
    (room : depth + 2 ≤ limits.maxDepth)
    (low : (Expr.negate (.binary .pow (.literal (-value)) exponent)).height ≤ limits.maxHeight)
    (right : Resumes limits finish .unary tokens exponent (depth + 2)) :
    Resumes limits finish .unary (⟨.number value, place⟩ :: ⟨.symbol .caret, caret⟩ :: tokens)
      (.negate (.binary .pow (.literal (-value)) exponent)) depth := by
  obtain ⟨last, read⟩ : ∃ last, ∀ rest, Stops BinaryOp.pow.rightPower rest →
      Run limits finish (.right .pow caret) (rightDepth .pow (depth + 1)) (tokens ++ rest)
        (.done exponent last rest) :=
    right_done caret right (fun _ => room) (by decide) (by decide)
  refine ⟨last, fun power rest reading _ ends more => ?_⟩
  have power : Run limits finish (.extend signPower (.literal (-value)) place) (depth + 1)
      (⟨.symbol .caret, caret⟩ :: tokens ++ rest)
      (.done (.binary .pow (.literal (-value)) exponent) last rest) :=
    .extend (Lexeme.operator?_symbol .pow) (by decide) (read rest (ends.stops.of_power (by decide)))
      (Nat.le_of_succ_le low) (.stop (ends.stops.of_power (by decide)))
  exact .expression (.signedPower (by rw [signsPower, signed]; rfl) (by omega) power) low more

private theorem resumes_negate {tokens : List Token} {depth : Nat} (place : Span)
    (room : depth + 1 ≤ limits.maxDepth)
    (low : (Expr.negate tree).height ≤ limits.maxHeight)
    (operand : Resumes limits finish .unary tokens tree (depth + 1)) :
    Resumes limits finish .unary (⟨.symbol .minus, place⟩ :: tokens) (.negate tree) depth := by
  obtain ⟨last, done⟩ := operand.done
  refine ⟨last, fun power rest reading _ ends more => ?_⟩
  exact .expression (.negate (.nested room (done signPower rest (by decide)
    (.of_stops ends.stops (by decide)) (ends.stops.of_power (by decide))))) low more

/-- What the grammar spells is read, if its nesting and its height are within the limits. -/
theorem Derivation.resumes (derivation : Derivation stratum words tree) {tokens : List Token}
    {depth : Nat} (spelled : Token.lexemes tokens = words)
    (shallow : derivation.nest ≤ limits.maxDepth - depth)
    (low : tree.height ≤ limits.maxHeight) :
    Resumes limits finish stratum tokens tree depth := by
  induction derivation generalizing tokens depth with
  | number value =>
    obtain ⟨place, rfl⟩ := Token.of_lexemes_eq_singleton spelled
    exact resumes_number
  | group inner ih =>
    simp only [nest] at shallow
    obtain ⟨opening, body, closing, inside, rfl⟩ := Token.of_lexemes_eq_group spelled
    exact resumes_group opening closing (by omega) low (ih inside (by omega) low)
  | call name argument ih =>
    simp only [nest] at shallow
    obtain ⟨place, rest, rfl, called⟩ := Token.of_lexemes_eq_cons spelled
    obtain ⟨opening, body, closing, inside, rfl⟩ := Token.of_lexemes_eq_group called
    exact resumes_call name place opening closing (by omega) low
      (ih inside (by omega) (Nat.le_of_succ_le low))
  | primary inner ih =>
    obtain ⟨last, resume⟩ := ih spelled shallow low
    exact ⟨last, fun power rest reading tight ends =>
      resume power rest reading (Nat.le_trans tight (by decide))
        ⟨ends.stops.mono (by decide), ends.plain⟩⟩
  | power plain left right ihLeft ihRight =>
    simp only [nest] at shallow
    simp only [Expr.height] at low
    obtain ⟨first, rest, rfl, starts, more⟩ := Token.of_lexemes_eq_append spelled
    obtain ⟨caret, second, rfl, follows⟩ := Token.of_lexemes_eq_cons more
    refine resumes_operator .pow (by simp only [Expr.height]; omega)
      (ihLeft starts (by omega) (by omega))
      (right_done caret (ihRight follows ?_ (by omega)) (fun _ => by omega) (by decide) (by decide))
      (fun rest => ⟨.of_operator? rfl (by decide), fun _ => starts ▸ plain⟩) (by decide)
      (by decide) (fun rest stops => stops.of_power (by decide))
    simp only [rightDepth, ↓reduceIte]
    omega
  | signedPower signed right ih =>
    simp only [nest] at shallow
    simp only [Expr.height] at low
    obtain ⟨place, rest, rfl, more⟩ := Token.of_lexemes_eq_cons spelled
    obtain ⟨caret, second, rfl, follows⟩ := Token.of_lexemes_eq_cons more
    exact resumes_signedPower place caret signed (by omega) (by simp only [Expr.height]; omega)
      (ih follows (by omega) (by omega))
  | negate operand ih =>
    simp only [nest] at shallow
    obtain ⟨place, rest, rfl, follows⟩ := Token.of_lexemes_eq_cons spelled
    exact resumes_negate place (by omega) low
      (ih follows (by omega) (Nat.le_of_succ_le low))
  | unary inner ih =>
    obtain ⟨last, resume⟩ := ih spelled shallow low
    exact ⟨last, fun power rest reading tight ends =>
      resume power rest reading (Nat.le_trans tight (by decide))
        (.of_stops (ends.stops.mono (by decide)) (by decide))⟩
  | @product op _ _ lhs rhs either left right ihLeft ihRight =>
    simp only [nest] at shallow
    simp only [Expr.height] at low
    obtain ⟨first, rest, rfl, starts, more⟩ := Token.of_lexemes_eq_append spelled
    obtain ⟨sign, second, rfl, follows⟩ := Token.of_lexemes_eq_cons more
    have powers : op ≠ .pow ∧ op.leftPower = 3 ∧ op.rightPower = 4 := by
      rcases either with rfl | rfl <;> decide
    refine resumes_operator op (by simp only [Expr.height]; omega)
      (ihLeft starts (by omega) (by omega))
      (right_done sign (ihRight follows ?_ (by omega)) (fun pow => absurd pow powers.1)
        (by decide) (by rw [powers.2.2]; decide))
      (fun rest => .of_stops (.of_operator? (Lexeme.operator?_symbol op)
        (by rw [powers.2.1]; decide)) (by decide)) (Nat.le_refl _)
      (by rw [powers.2.1]; decide) (fun rest stops => by rw [powers.2.2]; exact stops)
    rw [rightDepth, if_neg powers.1]
    omega
  | term inner ih =>
    obtain ⟨last, resume⟩ := ih spelled shallow low
    exact ⟨last, fun power rest reading tight ends =>
      resume power rest reading (Nat.le_trans tight (by decide))
        (.of_stops (ends.stops.mono (by decide)) (by decide))⟩
  | @sum op _ _ lhs rhs either left right ihLeft ihRight =>
    simp only [nest] at shallow
    simp only [Expr.height] at low
    obtain ⟨first, rest, rfl, starts, more⟩ := Token.of_lexemes_eq_append spelled
    obtain ⟨sign, second, rfl, follows⟩ := Token.of_lexemes_eq_cons more
    have powers : op ≠ .pow ∧ op.leftPower = 1 ∧ op.rightPower = 2 := by
      rcases either with rfl | rfl <;> decide
    refine resumes_operator op (by simp only [Expr.height]; omega)
      (ihLeft starts (by omega) (by omega))
      (right_done sign (ihRight follows ?_ (by omega)) (fun pow => absurd pow powers.1)
        (by decide) (by rw [powers.2.2]; decide))
      (fun rest => .of_stops (.of_operator? (Lexeme.operator?_symbol op)
        (by rw [powers.2.1]; decide)) (by decide)) (Nat.le_refl _)
      (by rw [powers.2.1]; decide) (fun rest stops => by rw [powers.2.2]; exact stops)
    rw [rightDepth, if_neg powers.1]
    omega

end Grammar

end Calculator
