import Calculator.Proofs.Parse.Grammar
import Calculator.Proofs.Token.Tokenize
import Mathlib.Data.List.Chain

/-! # Neighbours in an expression

Two lexemes fit together if a tokenizer does not object to them as neighbours. Whatever the grammar
spells, neighbours in it fit together.
-/

namespace Calculator

/-- Whether one lexeme may follow another, whatever surrounds them. -/
def Lexeme.Fits (before after : Lexeme) : Prop :=
  (before.endsOperand && after.startsOperand) = false ∧
    ∀ first second, before = .symbol first → after = .symbol second →
      (first.isBinary && second.isBinary && second != .minus) = false

open Lexeme

namespace Token

theorem clash?_eq_none_iff {before after : Token} :
    clash? before after = none ↔ before.lexeme.Fits after.lexeme := by
  unfold clash? Fits
  split
  case isTrue touch => simp [touch]
  case isFalse apart =>
    rw [Bool.eq_false_iff.mpr apart]
    split
    case h_1 first second same same' =>
      rw [same, same']
      split
      case isTrue clash => simpa [and_assoc] using clash
      case isFalse fine => simpa [and_assoc] using fine
    case h_2 other =>
      refine ⟨fun _ => ⟨rfl, fun first second same same' => ?_⟩, fun _ => rfl⟩
      exact (other first second same same').elim

theorem firstClash?_eq_none_iff {tokens : List Token} :
    firstClash? tokens = none ↔ (lexemes tokens).IsChain Fits := by
  fun_induction firstClash? tokens with
  | case1 before after rest ih =>
    rw [Option.or_eq_none_iff, ih, clash?_eq_none_iff]
    exact List.isChain_cons_cons.symm
  | case2 tokens short =>
    rcases tokens with _ | ⟨token, _ | ⟨next, rest⟩⟩
    · exact ⟨fun _ => .nil, fun _ => rfl⟩
    · exact ⟨fun _ => .singleton _, fun _ => rfl⟩
    · exact (short _ _ _ rfl).elim

end Token

namespace Grammar

/-- Words that start and end as operands do, and fit together. -/
structure Phrase (words : List Lexeme) : Prop where
  starts : ∃ first, words.head? = some first ∧ (first.startsOperand = true ∨ first = .symbol .minus)
  ends : ∃ last, words.getLast? = some last ∧ last.endsOperand = true
  fit : words.IsChain Fits

variable {words words' : List Lexeme} {lexeme : Lexeme} {sign : Symbol}

theorem fits_of_ends (ends : lexeme.endsOperand = true) (behind : sign ≠ .openParen) :
    lexeme.Fits (.symbol sign) := by
  refine ⟨?_, ?_⟩
  · cases sign with
    | openParen => exact (behind rfl).elim
    | _ => exact Bool.and_false _
  · rintro first second rfl -
    cases first with
    | closeParen => rfl
    | _ => cases ends

theorem fits_of_starts (starts : lexeme.startsOperand = true ∨ lexeme = .symbol .minus)
    (before : sign ≠ .closeParen) : Fits (.symbol sign) lexeme := by
  refine ⟨?_, ?_⟩
  · cases sign with
    | closeParen => exact (before rfl).elim
    | _ => rfl
  · rintro first second - rfl
    cases second with
    | openParen | minus => simp [Symbol.isBinary]
    | _ => simp [startsOperand] at starts

namespace Phrase

/-- A chain of words that ends like an operand can be continued by an operator. -/
theorem isChain_append (left : Phrase words) (right : (.symbol sign :: words').IsChain Fits)
    (behind : sign ≠ .openParen) : (words ++ .symbol sign :: words').IsChain Fits := by
  obtain ⟨last, same, ends⟩ := left.ends
  apply List.isChain_append.mpr
  refine ⟨left.fit, right, ?_⟩
  intro before isLast after isFirst
  rw [same] at isLast
  cases isLast
  cases isFirst
  exact fits_of_ends ends behind

theorem fits_start (right : Phrase words) (before : sign ≠ .closeParen) :
    ∀ first ∈ words.head?, Fits (.symbol sign) first := by
  intro after isFirst
  obtain ⟨first, same, starts⟩ := right.starts
  rw [same] at isFirst
  cases isFirst
  exact fits_of_starts starts before

/-- A phrase stays one behind a lexeme that can start it and fits. -/
theorem cons (right : Phrase words)
    (starts : lexeme.startsOperand = true ∨ lexeme = .symbol .minus)
    (fits : ∀ first ∈ words.head?, lexeme.Fits first) : Phrase (lexeme :: words) := by
  obtain ⟨last, stop, ends⟩ := right.ends
  refine ⟨⟨lexeme, rfl, starts⟩, ⟨last, ?_, ends⟩, List.isChain_cons.mpr ⟨fits, right.fit⟩⟩
  rw [List.getLast?_cons, stop]
  rfl

theorem between (left : Phrase words) (right : Phrase words') (op : BinaryOp) :
    Phrase (words ++ .symbol op.symbol :: words') := by
  obtain ⟨first, start, starts⟩ := left.starts
  obtain ⟨last, stop, ends⟩ := right.ends
  have fits : ∀ first ∈ words'.head?, Fits (.symbol op.symbol) first :=
    right.fits_start (by cases op <;> decide)
  refine ⟨⟨first, ?_, starts⟩, ⟨last, ?_, ends⟩, ?_⟩
  · rw [List.head?_append, start, Option.some_or]
  · rw [List.getLast?_append, List.getLast?_cons, stop]
    rfl
  · apply left.isChain_append (List.isChain_cons.mpr ⟨fits, right.fit⟩)
    cases op <;> decide

theorem group (inner : Phrase words) :
    Phrase (.symbol .openParen :: (words ++ [.symbol .closeParen])) := by
  have closed : Phrase (words ++ [.symbol .closeParen]) := by
    obtain ⟨first, start, starts⟩ := inner.starts
    refine ⟨⟨first, ?_, starts⟩, ⟨_, List.getLast?_concat .., rfl⟩, ?_⟩
    · rw [List.head?_append, start, Option.some_or]
    · exact inner.isChain_append (.singleton _) (by decide)
  exact closed.cons (.inl rfl) (closed.fits_start (by decide))

theorem negate (operand : Phrase words) : Phrase (.symbol .minus :: words) :=
  operand.cons (.inr rfl) (operand.fits_start (by decide))

theorem call (name : String) (group : Phrase (.symbol .openParen :: words)) :
    Phrase (.function name :: .symbol .openParen :: words) := by
  apply group.cons (.inl rfl)
  intro first isFirst
  refine ⟨rfl, ?_⟩
  intro _ _ isSymbol
  cases isSymbol

end Phrase

theorem phrase_number (value : Float) : Phrase [.number value] :=
  ⟨⟨_, rfl, .inl rfl⟩, ⟨_, rfl, rfl⟩, .singleton _⟩

/-- What the grammar spells starts and ends like an operand, and fits together. -/
theorem Derivation.phrase {stratum : Stratum} {tree : Expr}
    (derivation : Derivation stratum words tree) : Phrase words := by
  induction derivation with
  | number value => exact phrase_number value
  | group _ ih => exact ih.group
  | call name _ ih => exact ih.group.call name
  | primary _ ih | unary _ ih | term _ ih => exact ih
  | power _ _ _ left right => exact left.between right .pow
  | signedPower _ _ ih => exact (phrase_number _).between ih .pow
  | negate _ ih => exact ih.negate
  | product _ _ _ left right | sum _ _ _ left right => exact left.between right _

end Grammar

end Calculator
