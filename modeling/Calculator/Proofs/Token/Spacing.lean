import Calculator.Proofs.Token.Tokenization
import Calculator.Proofs.Token.Wording

/-! # Space between tokens

Space may be put into a text wherever it does not tear a token apart: before it, behind it, and
between its tokens. A scan then takes the same words off the text. What ends a name or a literal
ends it also if space follows first, and a minus sign that no literal followed before is followed by
none now.
-/

namespace Calculator

open Scanner

/-- Whether no token has an offset strictly inside its span. -/
def Token.Apart (tokens : List Token) (offset : Nat) : Prop :=
  ∀ token ∈ tokens, ¬ (token.span.start < offset ∧ offset < token.span.stop)

instance (tokens : List Token) (offset : Nat) : Decidable (Token.Apart tokens offset) :=
  inferInstanceAs (Decidable (∀ token ∈ tokens, _))

/-- The second text is the first one, from a byte offset on, with space put in that tears none of
the tokens apart. -/
inductive Spaced (tokens : List Token) : Nat → List Char → List Char → Prop
  | nil {offset} : Spaced tokens offset [] []
  | keep {offset c text spaced} (more : Spaced tokens (offset + c.utf8Size) text spaced) :
    Spaced tokens offset (c :: text) (c :: spaced)
  | space {offset c text spaced} (blank : isSpace c = true) (apart : Token.Apart tokens offset)
      (more : Spaced tokens offset text spaced) : Spaced tokens offset text (c :: spaced)

variable {tokens others : List Token} {offset : Nat} {c : Char}
  {blanks slice text rest spaced : List Char} {functions : Bool} {previous : Option Lexeme}
  {lexeme : Lexeme} {equation equation' : String}

namespace Spaced

/-- A character is kept behind the space that is put in before it. -/
theorem of_cons (spacing : Spaced tokens offset (c :: rest) spaced) :
    ∃ blanks spaced', spaced = blanks ++ c :: spaced' ∧ (∀ b ∈ blanks, isSpace b = true) ∧
      (blanks = [] ∨ Token.Apart tokens offset) ∧
      Spaced tokens (offset + c.utf8Size) rest spaced' := by
  generalize same : c :: rest = text at spacing
  induction spacing with
  | nil => cases same
  | keep more =>
    cases same
    exact ⟨[], _, rfl, by simp, .inl rfl, more⟩
  | @space _ b _ _ blank apart _ ih =>
    obtain ⟨blanks, spaced', rfl, space, -, more⟩ := ih same
    exact ⟨b :: blanks, spaced', rfl, List.forall_mem_cons.mpr ⟨blank, space⟩, .inr apart, more⟩

/-- Space with more space put in is space. -/
theorem isSpace_of_mem (spacing : Spaced tokens offset text spaced)
    (space : ∀ c ∈ text, isSpace c = true) : ∀ c ∈ spaced, isSpace c = true := by
  induction spacing with
  | nil => exact space
  | keep _ ih =>
    obtain ⟨first, rest⟩ := List.forall_mem_cons.mp space
    exact List.forall_mem_cons.mpr ⟨first, ih rest⟩
  | space blank _ _ ih => exact List.forall_mem_cons.mpr ⟨blank, ih space⟩

/-- Space at the start of a text stays at the start. -/
theorem of_blanks (spacing : Spaced tokens offset (blanks ++ text) spaced)
    (space : ∀ c ∈ blanks, isSpace c = true) :
    ∃ blanks' spaced', spaced = blanks' ++ spaced' ∧ (∀ c ∈ blanks', isSpace c = true) ∧
      Spaced tokens (offset + blanks.length) text spaced' := by
  induction blanks generalizing offset spaced with
  | nil => exact ⟨[], spaced, rfl, by simp, spacing⟩
  | cons c blanks ih =>
    obtain ⟨blank, space⟩ := List.forall_mem_cons.mp space
    obtain ⟨before, _, rfl, spaceBefore, -, more⟩ := of_cons spacing
    obtain ⟨behind, spaced', rfl, spaceBehind, rest⟩ := ih more space
    have space' : ∀ b ∈ before ++ c :: behind, isSpace b = true :=
      List.forall_mem_append.mpr ⟨spaceBefore, List.forall_mem_cons.mpr ⟨blank, spaceBehind⟩⟩
    refine ⟨before ++ c :: behind, spaced', by simp, space', ?_⟩
    rwa [utf8Size_of_le (ascii_of_isSpace blank), Nat.add_assoc, Nat.add_comm 1] at rest

/-- Where a token goes on, no space is put in. -/
theorem of_inside (spacing : Spaced tokens offset (slice ++ text) spaced)
    (ascii : ∀ c ∈ slice, c.toNat ≤ 127)
    (inside : ∀ place, offset ≤ place → place < offset + slice.length →
      ¬ Token.Apart tokens place) :
    ∃ spaced', spaced = slice ++ spaced' ∧
      Spaced tokens (offset + slice.length) text spaced' := by
  induction slice generalizing offset spaced with
  | nil => exact ⟨spaced, rfl, spacing⟩
  | cons c slice ih =>
    obtain ⟨small, ascii⟩ := List.forall_mem_cons.mp ascii
    rw [List.length_cons] at inside ⊢
    obtain ⟨blanks, _, rfl, -, nothing | apart, more⟩ := of_cons spacing
    · subst nothing
      rw [utf8Size_of_le small] at more
      have inside' (place : Nat) (low : offset + 1 ≤ place)
          (high : place < offset + 1 + slice.length) : ¬ Token.Apart tokens place :=
        inside place (by omega) (by omega)
      obtain ⟨spaced', rfl, rest⟩ := ih more ascii inside'
      refine ⟨spaced', rfl, ?_⟩
      rwa [Nat.add_assoc, Nat.add_comm 1] at rest
    · exact (inside offset (Nat.le_refl _) (by omega) apart).elim

/-- A text does not come to start with anything but space. -/
theorem any_head? (spacing : Spaced tokens offset text spaced) {test : Char → Bool}
    (solid : ∀ c, test c = true → isSpace c = false) (ends : text.head?.any test = false) :
    spaced.head?.any test = false := by
  cases spacing with
  | nil => rfl
  | keep => exact ends
  | @space _ c _ _ blank =>
    apply Bool.eq_false_iff.mpr
    intro starts
    have other := solid c starts
    rw [blank] at other
    cases other

end Spaced

/-- As much is taken off a text with space put in behind. -/
theorem Lexeme.Munches.of_spaced (munches : lexeme.Munches previous slice rest)
    (spacing : Spaced tokens offset rest spaced) : lexeme.Munches previous slice spaced := by
  have letters : rest.head?.any Char.isAlpha = false → spaced.head?.any Char.isAlpha = false :=
    spacing.any_head? fun c letter => (solid_of_isAlpha letter).2.1
  have literals : startsLiteral rest = false → startsLiteral spaced = false :=
    spacing.any_head? fun c starts => (solid_of_isStart starts).2
  cases lexeme with
  | symbol sign =>
    obtain ⟨same, alone⟩ := munches
    exact ⟨same, fun minus follows => literals (alone minus follows)⟩
  | function name =>
    obtain ⟨same, isName, ends⟩ := munches
    exact ⟨same, isName, letters ends⟩
  | number value =>
    obtain ⟨ends, numeral⟩ := munches
    exact ⟨literals ends, numeral⟩

/-- A text with space put in has the words of the tokens that the text is cut into. -/
theorem Scanner.Cut.worded_spaced (cut : Cut functions offset previous text tokens)
    (spacing : Spaced others offset text spaced) (among : ∀ token ∈ tokens, token ∈ others) :
    Worded functions previous spaced (Token.lexemes tokens) := by
  induction cut generalizing spaced with
  | done space => exact .done (spacing.isSpace_of_mem space)
  | @token position previous blanks slice rest lexeme tokens space munches enabled _ ih =>
    obtain ⟨here, among'⟩ := List.forall_mem_cons.mp among
    -- Space put in right before the token lies behind the space that was there, and no other space
    -- comes to stand between the start of the token and its end.
    have munches' := munches
    have ascii := munches.ascii
    obtain ⟨first, more, rfl, -⟩ := exists_solid munches
    obtain ⟨small, ascii⟩ := List.forall_mem_cons.mp ascii
    rw [List.append_assoc] at spacing
    obtain ⟨before, _, rfl, spaceBefore, spacing⟩ := spacing.of_blanks space
    obtain ⟨behind, _, rfl, spaceBehind, -, spacing⟩ := spacing.of_cons
    rw [utf8Size_of_le small] at spacing
    have inside (place : Nat) (low : position + blanks.length + 1 ≤ place)
        (high : place < position + blanks.length + 1 + more.length) :
        ¬ Token.Apart others place := by
      intro apart
      apply apart _ here
      dsimp only
      rw [List.length_cons]
      omega
    obtain ⟨spaced', rfl, left⟩ := spacing.of_inside ascii inside
    have whole : Worded functions previous ((before ++ behind) ++ (first :: more) ++ spaced')
        (lexeme :: Token.lexemes tokens) := by
      apply Worded.word _ (munches'.of_spaced left) enabled
      · refine ih ?_ among'
        rwa [List.length_cons, Nat.add_comm more.length, ← Nat.add_assoc]
      · exact List.forall_mem_append.mpr ⟨spaceBefore, spaceBehind⟩
    simpa only [List.append_assoc, List.cons_append, Token.lexemes_cons] using whole

/-- Where a scan reads only tokens, it reads tokens that say the same if space is put in between
them. -/
theorem exists_scan_spaced (scanned : scan functions equation = tokens.map .ok)
    (spacing : Spaced tokens 0 equation.toList equation'.toList) :
    ∃ tokens', scan functions equation' = tokens'.map .ok ∧
      Token.lexemes tokens' = Token.lexemes tokens := by
  have cut : Cut functions 0 none equation.toList tokens := cut_of_items scanned
  obtain ⟨tokens', same, cut'⟩ := (cut.worded_spaced spacing fun _ => id).exists_cut 0
  exact ⟨tokens', items_of_cut cut', same⟩

end Calculator
