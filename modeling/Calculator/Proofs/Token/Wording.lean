import Calculator.Proofs.Parse.Grammar
import Calculator.Proofs.Token.Munch

/-! # Texts joined at a symbol

The words of a text, wherever it stands. A symbol is a seam in a text: what is in front of it is
taken apart as if nothing followed, and what is behind it does not depend on what is in front.
Only a minus sign may join a literal behind it.
-/

namespace Calculator

variable {functions : Bool} {previous previous' : Option Lexeme} {lexeme : Lexeme} {sign : Symbol}
  {slice rest rest' front back text : List Char} {words words' : List Lexeme}
  {tokens : List Token}

theorem Symbol.char_injective (sign : Symbol) {sign' : Symbol} (same : sign.char = sign'.char) :
    sign = sign' := by
  have symbol := ofChar?_char sign
  rw [same, ofChar?_char] at symbol
  exact (Option.some.inj symbol).symm

theorem isAlpha_symbol (sign : Symbol) : sign.char.isAlpha = false := by
  cases sign <;> decide

theorem isStart_symbol (sign : Symbol) : Numeral.isStart sign.char = false := by
  cases sign <;> decide

/-- How a text starts is not changed by a character of another kind behind it. -/
theorem any_head?_append (front back : List Char) {test : Char → Bool} {c : Char}
    (other : test c = false) : (front ++ c :: back).head?.any test = front.head?.any test := by
  cases front with
  | nil => exact other
  | cons first rest => rfl

namespace Lexeme.Munches

/-- What is taken off a text depends on what follows it only as far as this goes on with it, and on
what stands before it only as far as an operand can follow. -/
theorem congr (munches : lexeme.Munches previous slice rest)
    (follows : OperandFollows previous ↔ OperandFollows previous')
    (letters : rest'.head?.any Char.isAlpha = rest.head?.any Char.isAlpha)
    (literals : Scanner.startsLiteral rest' = Scanner.startsLiteral rest) :
    lexeme.Munches previous' slice rest' := by
  cases lexeme <;> simpa only [Munches, ← follows, letters, literals] using munches

/-- In front of a character that starts neither a name nor a literal, as much is taken off a text
as at its end. -/
theorem append_iff {c : Char} (back : List Char) (noLetter : c.isAlpha = false)
    (noStart : Numeral.isStart c = false) :
    lexeme.Munches previous slice (rest ++ c :: back) ↔ lexeme.Munches previous slice rest := by
  have letters := any_head?_append rest back noLetter
  have literals := any_head?_append rest back noStart
  exact ⟨fun munches => munches.congr .rfl letters.symm literals.symm,
    fun munches => munches.congr .rfl letters literals⟩

theorem append_symbol_iff (sign : Symbol) (back : List Char) :
    lexeme.Munches previous slice (rest ++ sign.char :: back) ↔
      lexeme.Munches previous slice rest :=
  append_iff back (isAlpha_symbol sign) (isStart_symbol sign)

/-- Only a minus sign is ever a part of a longer token. -/
theorem eq_symbol_of_mem (munches : lexeme.Munches previous slice rest)
    (member : sign.char ∈ slice) (other : sign ≠ .minus) :
    lexeme = .symbol sign ∧ slice = [sign.char] := by
  have notDigit {numeral : Numeral} (literal : numeral.IsLiteral) : sign.char ∉ numeral.chars := by
    intro member
    have starts := Numeral.isStart_of_mem_chars literal _ member
    rw [isStart_symbol] at starts
    cases starts
  cases lexeme with
  | symbol sign' =>
    obtain ⟨rfl, -⟩ := munches
    obtain rfl := sign.char_injective (List.mem_singleton.mp member)
    exact ⟨rfl, rfl⟩
  | function name =>
    obtain ⟨rfl, ⟨-, letters⟩, -⟩ := munches
    have letter := letters _ member
    rw [isAlpha_symbol] at letter
    cases letter
  | number value =>
    obtain ⟨-, numeral, literal, ⟨rfl, -⟩ | ⟨-, rfl, -⟩⟩ := munches
    · exact (notDigit literal member).elim
    · rcases List.mem_cons.mp member with same | member
      · exact (other (sign.char_injective same)).elim
      · exact (notDigit literal member).elim

end Lexeme.Munches

namespace Scanner

/-- The words that a scan takes off a text behind a lexeme, one after the other. -/
inductive Worded (functions : Bool) : Option Lexeme → List Char → List Lexeme → Prop
  | done {previous : Option Lexeme} {blanks : List Char}
      (space : ∀ c ∈ blanks, isSpace c = true) : Worded functions previous blanks []
  | word {previous : Option Lexeme} {blanks slice rest : List Char} {lexeme : Lexeme}
      {words : List Lexeme} (space : ∀ c ∈ blanks, isSpace c = true)
      (munches : lexeme.Munches previous slice rest) (enabled : lexeme.Enabled functions)
      (more : Worded functions (some lexeme) rest words) :
    Worded functions previous (blanks ++ slice ++ rest) (lexeme :: words)

theorem Cut.worded {position : Nat} (cut : Cut functions position previous text tokens) :
    Worded functions previous text (Token.lexemes tokens) := by
  induction cut with
  | done space => exact .done space
  | token space munches enabled _ ih => exact .word space munches enabled ih

namespace Worded

theorem exists_cut (worded : Worded functions previous text words) (position : Nat) :
    ∃ tokens, Token.lexemes tokens = words ∧ Cut functions position previous text tokens := by
  induction worded generalizing position with
  | done space => exact ⟨[], rfl, .done space⟩
  | @word _ blanks slice _ lexeme _ space munches enabled _ ih =>
    obtain ⟨tokens, rfl, more⟩ := ih (position + blanks.length + slice.length)
    exact ⟨_, rfl, .token space munches enabled more⟩

/-- A text has the same words wherever an operand can follow. -/
theorem congr (worded : Worded functions previous text words)
    (follows : OperandFollows previous ↔ OperandFollows previous') :
    Worded functions previous' text words := by
  cases worded with
  | done space => exact .done space
  | word space munches enabled more =>
    exact .word space (munches.congr follows rfl rfl) enabled more

/-- Every word takes a character. -/
theorem length_le (worded : Worded functions previous text words) :
    words.length ≤ text.length := by
  induction worded with
  | done => exact Nat.zero_le _
  | word _ munches _ _ ih =>
    obtain ⟨first, more, rfl, -⟩ := exists_solid munches
    simp only [List.length_cons, List.length_append]
    omega

/-- The functions among the words of a text have names. -/
theorem isName {name : String} (worded : Worded functions previous text words)
    (member : .function name ∈ words) : IsName name := by
  induction worded with
  | done => cases member
  | word _ munches _ _ ih =>
    rcases List.mem_cons.mp member with rfl | member
    · exact munches.2.1
    · exact ih member

/-- A text has only one wording. -/
theorem unique (first : Worded functions previous text words)
    (second : Worded functions previous text words') : words = words' := by
  obtain ⟨tokens, rfl, cut⟩ := first.exists_cut 0
  obtain ⟨tokens', rfl, cut'⟩ := second.exists_cut 0
  rw [cut.unique cut']

theorem nil : Worded functions previous [] [] := .done (by simp)

/-- What is taken off a text at its start is its first word. -/
theorem cons (munches : lexeme.Munches previous slice rest) (enabled : lexeme.Enabled functions)
    (more : Worded functions (some lexeme) rest words) :
    Worded functions previous (slice ++ rest) (lexeme :: words) := by
  have noSpace : ∀ c ∈ [], isSpace c = true := by simp
  exact .word noSpace munches enabled more

/-- A literal is a word. -/
theorem literal {numeral : Numeral} (isLiteral : numeral.IsLiteral) :
    Worded functions previous numeral.chars [.number numeral.value] := by
  have munches : (Lexeme.number numeral.value).Munches previous numeral.chars [] :=
    ⟨rfl, numeral, isLiteral, .inl ⟨rfl, rfl⟩⟩
  simpa only [List.append_nil] using cons munches trivial nil

/-- Where an operand can follow, a literal is a word with a minus sign before it. -/
theorem signed {numeral : Numeral} (isLiteral : numeral.IsLiteral)
    (follows : OperandFollows previous) :
    Worded functions previous ('-' :: numeral.chars) [.number (-numeral.value)] := by
  have munches : (Lexeme.number (-numeral.value)).Munches previous ('-' :: numeral.chars) [] :=
    ⟨rfl, numeral, isLiteral, .inr ⟨follows, rfl, rfl⟩⟩
  simpa only [List.append_nil] using cons munches trivial nil

/-- Space in front of a text makes no difference. -/
theorem space_cons (worded : Worded functions previous text words) :
    Worded functions previous (' ' :: text) words := by
  cases worded with
  | done space => exact .done (List.forall_mem_cons.mpr ⟨by decide, space⟩)
  | word space munches enabled more =>
    exact .word (List.forall_mem_cons.mpr ⟨by decide, space⟩) munches enabled more

/-- Space behind a text makes no difference. -/
theorem append_space (worded : Worded functions previous text words) :
    Worded functions previous (text ++ [' ']) words := by
  induction worded with
  | done space =>
    exact .done (List.forall_mem_append.mpr ⟨space, List.forall_mem_singleton.mpr (by decide)⟩)
  | word space munches enabled _ ih =>
    rw [List.append_assoc]
    refine .word space ?_ enabled ih
    exact (Lexeme.Munches.append_iff [] (by decide) (by decide)).mpr munches

/-- Texts on both sides of a symbol are one text. -/
theorem append (sign : Symbol) (first : Worded functions previous front words)
    (second : Worded functions (some (.symbol sign)) back words')
    (alone : sign = .minus → startsLiteral back = false) :
    Worded functions previous (front ++ sign.char :: back) (words ++ .symbol sign :: words') := by
  induction first with
  | @done previous blanks space =>
    have munches : (Lexeme.symbol sign).Munches previous [sign.char] back :=
      ⟨rfl, fun minus _ => alone minus⟩
    have whole : Worded functions previous (blanks ++ [sign.char] ++ back)
        (.symbol sign :: words') := .word space munches trivial second
    rwa [List.append_assoc] at whole
  | word space munches enabled _ ih =>
    rw [List.append_assoc]
    exact .word space ((Lexeme.Munches.append_symbol_iff sign back).mpr munches) enabled ih

/-- A text is cut at a symbol that is no minus sign. -/
theorem split (sign : Symbol) (other : sign ≠ .minus)
    (worded : Worded functions previous (front ++ sign.char :: back) words) :
    ∃ first second, words = first ++ .symbol sign :: second ∧
      Worded functions previous front first ∧
      Worded functions (some (.symbol sign)) back second := by
  generalize same : front ++ sign.char :: back = text at worded
  induction worded generalizing front with
  | done space =>
    have solid := space sign.char (by simp [← same])
    rw [isSpace_char] at solid
    cases solid
  | @word previous blanks slice rest lexeme words space munches enabled more ih =>
    have notBlank : sign.char ∉ blanks := fun member => by
      have solid := space _ member
      rw [isSpace_char] at solid
      cases solid
    rcases append_cons_eq_cases same with ⟨middle, rfl, rfl⟩ | ⟨middle, taken, rfl⟩
    · obtain ⟨first, second, rfl, inner, behind⟩ := ih rfl
      rw [Lexeme.Munches.append_symbol_iff] at munches
      exact ⟨lexeme :: first, second, rfl, .word space munches enabled inner, behind⟩
    -- The symbol is in what is taken off, and so it is all of that.
    have member : sign.char ∈ blanks ++ slice := by simp [taken]
    obtain ⟨rfl, rfl⟩ :=
      munches.eq_symbol_of_mem ((List.mem_append.mp member).resolve_left notBlank) other
    rcases append_cons_cases taken with ⟨rfl, -, rfl⟩ | ⟨more', -, nothing⟩ | ⟨more', rfl, -⟩
    · exact ⟨[], words, rfl, .done space, more⟩
    · cases more' <;> cases nothing
    · exact (notBlank (by simp)).elim

theorem operandFollows_openParen :
    OperandFollows none ↔ OperandFollows (some (.symbol .openParen)) :=
  iff_of_true trivial (by decide : Symbol.openParen ≠ .closeParen)

/-- What stands in parentheses has its own words. -/
theorem enclose_iff :
    Worded functions previous (front ++ '(' :: (text ++ ')' :: back)) words ↔
      ∃ before inside behind,
        words = before ++ .symbol .openParen :: (inside ++ .symbol .closeParen :: behind) ∧
        Worded functions previous front before ∧ Worded functions none text inside ∧
        Worded functions (some (.symbol .closeParen)) back behind := by
  constructor
  · intro whole
    obtain ⟨before, rest, rfl, starts, opened⟩ := whole.split .openParen (by decide)
    obtain ⟨inside, behind, rfl, inner, closed⟩ := opened.split .closeParen (by decide)
    exact ⟨before, inside, behind, rfl, starts, inner.congr operandFollows_openParen.symm, closed⟩
  · rintro ⟨before, inside, behind, rfl, starts, inner, closed⟩
    have opened := (inner.congr operandFollows_openParen).append .closeParen closed nofun
    exact starts.append .openParen opened nofun

theorem group (inner : Worded functions none text words) (previous : Option Lexeme) :
    Worded functions previous ('(' :: (text ++ [')']))
      (.symbol .openParen :: (words ++ [.symbol .closeParen])) :=
  enclose_iff.mpr ⟨[], words, [], rfl, nil, inner, nil⟩

/-- A name before parentheses is a word. -/
theorem call {name : String} (isName : IsName name) (inner : Worded true none text words) :
    Worded true previous (name.toList ++ '(' :: (text ++ [')']))
      (.function name :: .symbol .openParen :: (words ++ [.symbol .closeParen])) := by
  have munches : (Lexeme.function name).Munches previous name.toList ('(' :: (text ++ [')'])) :=
    ⟨rfl, isName, rfl⟩
  exact cons munches rfl (inner.group _)

end Worded

end Scanner

end Calculator
