import Calculator.Answer
import Calculator.Proofs.Number.Sign

/-! # Rules of JSON writers

What is asked of a JSON writer. Inside a string it escapes the quote, the backslash and the control
characters, and nothing else; a finite number it writes as digits that round to the number, with a
point or an exponent and behind its sign. Which escape stands for a character that has two, when a
number gets an exponent and whether that carries a plus sign, all this is left to the writer. The
standard one follows the rules.
-/

namespace Calculator

/-- The letters that may stand behind a backslash, with the characters they stand for there. -/
def shortEscapes : List (Char × Char) :=
  [('"', '"'), ('\\', '\\'), ('b', '\x08'), ('f', '\x0c'), ('n', '\n'), ('r', '\r'), ('t', '\t')]

/-- A character is escaped by a letter or by its code in four hexadecimal digits. -/
inductive IsEscape : Char → List Char → Prop
  | letter {c letter} (stands : (letter, c) ∈ shortEscapes) : IsEscape c ['\\', letter]
  | code {c high low} (highSmall : high < 16) (lowSmall : low < 16)
      (same : c.toNat = high * 16 + low) :
    IsEscape c ['\\', 'u', '0', '0', Nat.digitChar high, Nat.digitChar low]

/-- Whether a character cannot stand for itself inside a string. -/
def NeedsEscape (c : Char) : Prop := c = '"' ∨ c = '\\' ∨ c.toNat < 0x20

theorem not_needsEscape {c : Char} :
    ¬ NeedsEscape c ↔ c ≠ '"' ∧ c ≠ '\\' ∧ 0x20 ≤ c.toNat := by
  rw [NeedsEscape, not_or, not_or, Nat.not_lt]

/-- The ways to lay out the digits of a decimal: in full, an integer with a fraction of one zero,
or with an exponent. -/
inductive Decimal.IsLayout (d : Decimal) : List Char → Prop
  | positional : d.IsLayout (d.positional true)
  | scientific (signed : Bool) : d.IsLayout (d.scientific signed)

/-- Whether a text is the sign of a number and digits that round to it. -/
def IsNumeral (x : Float) (text : List Char) : Prop :=
  ∃ (d : Decimal) (layout : List Char), (d.coefficient = 0 → d.exponent = 0) ∧
    d.code = Binary64.code x ∧ d.IsLayout layout ∧
    text = if Binary64.isNegative x then '-' :: layout else layout

/-- The rules of a JSON writer. -/
structure JsonWriter.Lawful (writer : JsonWriter) : Prop where
  plain : ∀ {c}, ¬ NeedsEscape c → writer.escape c = [c]
  escaped : ∀ {c}, NeedsEscape c → IsEscape c (writer.escape c)
  finite : ∀ {x : Float}, x.isFinite = true → IsNumeral x (writer.numeral x)
  notFinite : ∀ {x : Float}, x.isFinite = false → writer.numeral x = "null".toList

/-- Whether a serializer writes every record as JSON. -/
def Serializer.WritesJson (serialize : Serializer) : Prop :=
  ∃ writer : JsonWriter, writer.Lawful ∧ ∀ record, serialize record = .ok (writer.object record)

namespace Text

variable {c : Char}

theorem hex_of_lt {n : Nat} (small : n < 0x10) : hex n = [Nat.digitChar n] :=
  Nat.toDigits_of_lt_base small

theorem hex_of_ge {n : Nat} (large : 0x10 ≤ n) (small : n < 0x20) :
    hex n = [Nat.digitChar 1, Nat.digitChar (n % 16)] := by
  have high : n / 16 = 1 := by omega
  rw [hex, Nat.toDigits_eq_if (by decide), if_neg (Nat.not_lt.mpr large), high]
  rfl

theorem eq_of_toNat {n : Nat} (same : c.toNat = n) : c = Char.ofNat n :=
  same ▸ c.ofNat_toNat.symm

theorem isEscape_jsonChar (needs : NeedsEscape c) : IsEscape c (jsonChar c) := by
  unfold jsonChar
  split
  case isTrue same => exact .letter (by rw [same]; decide)
  split
  case isTrue same => exact .letter (by rw [same]; decide)
  split
  case isTrue same => exact .letter (by rw [eq_of_toNat same]; decide)
  split
  case isTrue same => exact .letter (by rw [eq_of_toNat same]; decide)
  split
  case isTrue same => exact .letter (by rw [same]; decide)
  split
  case isTrue same => exact .letter (by rw [same]; decide)
  split
  case isTrue same => exact .letter (by rw [same]; decide)
  split
  case isTrue small =>
    rw [hex_of_lt small]
    exact .code (by decide : 0 < 16) small (by omega)
  split
  case isTrue large small =>
    rw [hex_of_ge (Nat.not_lt.mp large) small]
    exact .code (by decide : 1 < 16) (Nat.mod_lt _ (by decide)) (by omega)
  case isFalse quote backslash _ _ _ _ _ _ visible =>
    rcases needs with same | same | control
    · exact absurd same quote
    · exact absurd same backslash
    · exact absurd control visible

theorem jsonChar_of_plain (plain : ¬ NeedsEscape c) : jsonChar c = [c] := by
  obtain ⟨quote, backslash, visible⟩ := not_needsEscape.mp plain
  have seen (n : Nat) (control : n < 0x20) : c.toNat ≠ n := by omega
  have line : c ≠ '\n' := fun same => seen 10 (by decide) (by rw [same]; rfl)
  have back : c ≠ '\r' := fun same => seen 13 (by decide) (by rw [same]; rfl)
  have tab : c ≠ '\t' := fun same => seen 9 (by decide) (by rw [same]; rfl)
  have low : ¬ c.toNat < 0x10 := by omega
  simp only [jsonChar, quote, backslash, Nat.not_lt.mpr visible, seen 8 (by decide),
    seen 12 (by decide), line, back, tab, low, ↓reduceIte]

end Text

theorem NumberStyle.isNumeral_write {style : NumberStyle} (pointed : style.pointed = true)
    {x : Float} (finite : x.isFinite = true) : IsNumeral x (style.write x) := by
  refine ⟨Decimal.shortest style.tie (Binary64.code x), style.magnitude (Binary64.code x),
    Decimal.exponent_trim, Decimal.code_shortest _ (Binary64.isFinite_iff.mp finite), ?_, ?_⟩
  · rw [magnitude]
    split
    · exact pointed ▸ .positional
    · exact .scientific _
  · simp only [write, Binary64.isNaN_of_isFinite finite, finite, Bool.false_eq_true, ↓reduceIte]

/-- The standard writer follows the rules. -/
theorem JsonWriter.standard_lawful : standard.Lawful where
  plain := Text.jsonChar_of_plain
  escaped := Text.isEscape_jsonChar
  finite finite := by
    simp only [standard, finite, if_true]
    exact NumberStyle.isNumeral_write rfl finite
  notFinite notFinite := by
    simp only [standard, notFinite, Bool.false_eq_true, if_false]

theorem Serializer.writesJson_json : json.WritesJson :=
  ⟨.standard, JsonWriter.standard_lawful, fun _ => rfl⟩

end Calculator
