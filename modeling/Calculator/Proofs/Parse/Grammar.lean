import Calculator.Expr.Parse

/-! # The grammar of expressions

Four strata, from the loosest operators to the tightest:

* an expression is a term, or an expression, a plus or minus sign and a term;
* a term is a unary, or a term, a star or slash and a unary;
* a unary is a minus sign and a unary, a primary, or a power: a primary, a caret and a unary;
* a primary is a number, an expression in parentheses, or a function name before one.

A power whose base is a bare number with a sign is read as the negation of the power of its
magnitude. The grammar speaks of lexemes only: where they stand has no part in it, and neither have
binding powers or limits.
-/

namespace Calculator

section Lists

variable {α : Type} {first second rest rest' : List α} {x y : α}

/-- Where a list is cut in two, an element of it is behind the cut or before it. -/
theorem append_cons_eq_cases (same : first ++ x :: rest = second ++ rest') :
    (∃ middle, first = second ++ middle ∧ rest' = middle ++ x :: rest) ∨
      ∃ middle, second = first ++ x :: middle ∧ rest = middle ++ rest' := by
  rcases List.append_eq_append_iff.mp same with ⟨middle, rfl, behind⟩ | ⟨middle, rfl, rfl⟩
  · cases middle with
    | nil => exact .inl ⟨[], by simp, behind.symm⟩
    | cons word middle =>
      injection behind with head tail
      subst head
      exact .inr ⟨middle, rfl, tail⟩
  · exact .inl ⟨middle, rfl, rfl⟩

/-- Of two places in a list, one is the other, before it or behind it. -/
theorem append_cons_cases (same : first ++ x :: rest = second ++ y :: rest') :
    (first = second ∧ x = y ∧ rest = rest') ∨
      (∃ middle, second = first ++ x :: middle ∧ rest = middle ++ y :: rest') ∨
      ∃ middle, first = second ++ y :: middle ∧ rest' = middle ++ x :: rest := by
  rcases append_cons_eq_cases same with ⟨middle, rfl, behind⟩ | ⟨middle, rfl, rfl⟩
  · cases middle with
    | nil =>
      injection behind with head tail
      exact .inl ⟨List.append_nil _, head.symm, tail.symm⟩
    | cons word middle =>
      injection behind with head tail
      subst head
      exact .inr (.inr ⟨middle, rfl, tail⟩)
  · exact .inr (.inl ⟨middle, rfl, rfl⟩)

end Lists

/-- What the tokens say. -/
def Token.lexemes (tokens : List Token) : List Lexeme := tokens.map Token.lexeme

namespace Token

@[simp] theorem lexemes_nil : lexemes [] = [] := rfl

@[simp] theorem lexemes_cons (token : Token) (tokens : List Token) :
    lexemes (token :: tokens) = token.lexeme :: lexemes tokens := rfl

@[simp] theorem lexemes_append (first second : List Token) :
    lexemes (first ++ second) = lexemes first ++ lexemes second := List.map_append

@[simp] theorem length_lexemes (tokens : List Token) : (lexemes tokens).length = tokens.length :=
  List.length_map _

theorem of_lexemes_eq_cons {tokens : List Token} {word : Lexeme} {words : List Lexeme}
    (spelled : lexemes tokens = word :: words) :
    ∃ place rest, tokens = ⟨word, place⟩ :: rest ∧ lexemes rest = words := by
  obtain ⟨token, rest, rfl, rfl, rfl⟩ := List.map_eq_cons_iff.mp spelled
  exact ⟨token.span, rest, rfl, rfl⟩

theorem of_lexemes_eq_append {tokens : List Token} {first second : List Lexeme}
    (spelled : lexemes tokens = first ++ second) :
    ∃ left right, tokens = left ++ right ∧ lexemes left = first ∧ lexemes right = second :=
  List.map_eq_append_iff.mp spelled

theorem of_lexemes_eq_singleton {tokens : List Token} {word : Lexeme}
    (spelled : lexemes tokens = [word]) : ∃ place, tokens = [⟨word, place⟩] := by
  obtain ⟨token, rfl, rfl⟩ := List.map_eq_singleton_iff.mp spelled
  exact ⟨token.span, rfl⟩

/-- Words in parentheses are spelled by tokens in parentheses. -/
theorem of_lexemes_eq_group {tokens : List Token} {words : List Lexeme}
    (spelled : lexemes tokens = .symbol .openParen :: (words ++ [.symbol .closeParen])) :
    ∃ opening body closing, lexemes body = words ∧
      tokens = ⟨.symbol .openParen, opening⟩ :: (body ++ [⟨.symbol .closeParen, closing⟩]) := by
  obtain ⟨opening, rest, rfl, inside⟩ := of_lexemes_eq_cons spelled
  obtain ⟨body, last, rfl, same, closes⟩ := of_lexemes_eq_append inside
  obtain ⟨closing, rfl⟩ := of_lexemes_eq_singleton closes
  exact ⟨opening, body, closing, same, rfl⟩

end Token

namespace Grammar

/-- The strata of expressions. -/
inductive Stratum where
  | expr
  | term
  | unary
  | primary
deriving DecidableEq, Repr

/-- Whether words are a bare number with its sign bit set. -/
def IsSignedNumber (words : List Lexeme) : Prop :=
  ∃ value, words = [.number value] ∧ Binary64.isNegative value = true

/-- The ways in which words of a stratum spell a tree. -/
inductive Derivation : Stratum → List Lexeme → Expr → Type
  | number (value : Float) : Derivation .primary [.number value] (.literal value)
  | group {words tree} (inner : Derivation .expr words tree) :
    Derivation .primary (.symbol .openParen :: (words ++ [.symbol .closeParen])) tree
  | call (name : String) {words tree} (argument : Derivation .expr words tree) :
    Derivation .primary
      (.function name :: .symbol .openParen :: (words ++ [.symbol .closeParen])) (.call name tree)
  | primary {words tree} (inner : Derivation .primary words tree) : Derivation .unary words tree
  | power {words words' base exponent} (plain : ¬ IsSignedNumber words)
      (left : Derivation .primary words base) (right : Derivation .unary words' exponent) :
    Derivation .unary (words ++ .symbol .caret :: words') (.binary .pow base exponent)
  | signedPower {value : Float} {words exponent} (signed : Binary64.isNegative value = true)
      (right : Derivation .unary words exponent) :
    Derivation .unary (.number value :: .symbol .caret :: words)
      (.negate (.binary .pow (.literal (-value)) exponent))
  | negate {words tree} (operand : Derivation .unary words tree) :
    Derivation .unary (.symbol .minus :: words) (.negate tree)
  | unary {words tree} (inner : Derivation .unary words tree) : Derivation .term words tree
  | product {op : BinaryOp} {words words' lhs rhs} (either : op = .mul ∨ op = .div)
      (left : Derivation .term words lhs) (right : Derivation .unary words' rhs) :
    Derivation .term (words ++ .symbol op.symbol :: words') (.binary op lhs rhs)
  | term {words tree} (inner : Derivation .term words tree) : Derivation .expr words tree
  | sum {op : BinaryOp} {words words' lhs rhs} (either : op = .add ∨ op = .sub)
      (left : Derivation .expr words lhs) (right : Derivation .term words' rhs) :
    Derivation .expr (words ++ .symbol op.symbol :: words') (.binary op lhs rhs)

namespace Derivation

variable {stratum : Stratum} {words : List Lexeme} {tree : Expr}

/-- How deeply the spelling nests: parentheses, calls, signs and exponents each count one. -/
def nest {stratum : Stratum} {words : List Lexeme} {tree : Expr} :
    Derivation stratum words tree → Nat
  | number _ => 0
  | group inner => 1 + inner.nest
  | call _ argument => 1 + argument.nest
  | primary inner => inner.nest
  | power _ left right => max left.nest (1 + right.nest)
  | signedPower _ right => 1 + max 0 (1 + right.nest)
  | negate operand => 1 + operand.nest
  | unary inner => inner.nest
  | product _ left right => max left.nest right.nest
  | term inner => inner.nest
  | sum _ left right => max left.nest right.nest

/-- Each level of nesting takes a word of its own, and a number is left over. -/
theorem nest_lt_length (derivation : Derivation stratum words tree) :
    derivation.nest < words.length := by
  induction derivation with
  | number => exact Nat.one_pos
  | primary _ ih | unary _ ih | term _ ih => exact ih
  | group _ ih | call _ _ ih | signedPower _ _ ih | negate _ ih =>
    simp only [nest, List.length_append, List.length_cons, List.length_nil]
    omega
  | power _ _ _ left right | product _ _ _ left right | sum _ _ _ left right =>
    simp only [nest, List.length_append, List.length_cons]
    omega

/-- A tree is lower than its words are many. -/
theorem height_lt_length (derivation : Derivation stratum words tree) :
    tree.height < words.length := by
  induction derivation with
  | number => exact Nat.one_pos
  | primary _ ih | unary _ ih | term _ ih => exact ih
  | group _ ih | call _ _ ih | signedPower _ _ ih | negate _ ih =>
    simp only [Expr.height, List.length_append, List.length_cons, List.length_nil]
    omega
  | power _ _ _ left right | product _ _ _ left right | sum _ _ _ left right =>
    simp only [Expr.height, List.length_append, List.length_cons]
    omega

end Derivation

/-- Words spell a tree as an expression. -/
def Spells (words : List Lexeme) (tree : Expr) : Prop := Nonempty (Derivation .expr words tree)

/-- Words spell some tree. -/
def Complete (words : List Lexeme) : Prop := ∃ tree, Spells words tree

/-- Words can be continued so that they spell a tree. -/
def Viable (words : List Lexeme) : Prop := ∃ more, Complete (words ++ more)

theorem Complete.viable {words : List Lexeme} (complete : Complete words) : Viable words :=
  ⟨[], by rwa [List.append_nil]⟩

/-- What starts a viable sequence is viable. -/
theorem Viable.of_append {words more : List Lexeme} (viable : Viable (words ++ more)) :
    Viable words := by
  obtain ⟨rest, complete⟩ := viable
  exact ⟨more ++ rest, by rwa [← List.append_assoc]⟩

end Grammar

end Calculator
