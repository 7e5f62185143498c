import Calculator.Number.Reader

/-! # Number literals

An unsigned literal is digits, or digits with one point that has digits after it. A run of digits
and points that is no literal is rejected whole, so that `1.2.3` is not read as two numbers.

`Numeral.read` cuts a literal off a text, and `Numeral.parse` has what was cut read as a number. No
literal is refused there: `Numeral.ofText?_chars` says that its number is `Numeral.value`.
-/

namespace Calculator

/-- Why a text does not start with a literal. -/
inductive NumeralFault where
  | noDigits
  | secondPoint
  | noFraction
  | unreadable
deriving DecidableEq, Repr

/-- The reason a message gives. -/
def NumeralFault.reason : NumeralFault → String
  | noDigits => "expected digits"
  | secondPoint => "second decimal point"
  | noFraction => "expected digits after the decimal point"
  | unreadable => "failed to parse number literal"

/-- An unsigned literal, cut at its point if it has one. -/
structure Numeral where
  whole : List Char
  fraction : Option (List Char)
deriving DecidableEq, Repr

namespace Numeral

/-- Whether a literal can start with a character. -/
def isStart (c : Char) : Bool := c.isDigit || c = '.'

/-- The characters of a literal. -/
def chars (numeral : Numeral) : List Char :=
  match numeral.fraction with
  | none => numeral.whole
  | some fraction => numeral.whole ++ '.' :: fraction

/-- The number nearest to what a literal says. -/
def value (numeral : Numeral) : Float :=
  match numeral.fraction with
  | none => (Decimal.ofDigits numeral.whole 0).toFloat
  | some fraction => (Decimal.ofDigits (numeral.whole ++ fraction) fraction.length).toFloat

/-- The literal at the start of a text and the text after it, or what is wrong and with how many
characters. -/
def read (text : List Char) : Except (NumeralFault × Nat) (Numeral × List Char) :=
  let whole := text.takeWhile Char.isDigit
  match text.dropWhile Char.isDigit with
  | '.' :: rest =>
    let fraction := rest.takeWhile Char.isDigit
    match rest.dropWhile Char.isDigit with
    | '.' :: _ => .error (.secondPoint, whole.length + 1 + fraction.length + 1)
    | after =>
      if fraction.isEmpty then .error (.noFraction, whole.length + 1)
      else .ok (⟨whole, some fraction⟩, after)
  | after =>
    if whole.isEmpty then .error (.noDigits, 1) else .ok (⟨whole, none⟩, after)

/-- The number of what was cut off a text, with the length of that. -/
def convert (literal : Option (List Char)) (length : Nat) :
    Except (NumeralFault × Nat) (Float × Nat) :=
  match literal.bind Binary64.ofText? with
  | some value => .ok (value, length)
  | none => .error (.unreadable, length)

/-- The number of the literal at the start of a text and the length of the literal, or what is wrong
and with how many characters. -/
def parse (text : List Char) : Except (NumeralFault × Nat) (Float × Nat) :=
  match read text with
  | .error failure => .error failure
  | .ok (numeral, _) => convert (some numeral.chars) numeral.chars.length

/-- Bytes as a text in which every byte is the character of its number. -/
def ofBytes (bytes : List UInt8) : List Char := bytes.map fun byte => Char.ofNat byte.toNat

/-- The number of the literal at the start of bytes. The bytes behind the literal can be anything;
those of the literal have to be a text. -/
def parseBytes (bytes : List UInt8) : Except (NumeralFault × Nat) (Float × Nat) :=
  match read (ofBytes bytes) with
  | .error failure => .error failure
  | .ok (numeral, _) =>
    let length := numeral.chars.length
    convert ((String.fromUTF8? (bytes.take length).toByteArray).map String.toList) length

/-- A literal that was read stands at the start of its text, before what is left. -/
theorem read_append {text rest : List Char} {numeral : Numeral}
    (success : read text = .ok (numeral, rest)) : text = numeral.chars ++ rest := by
  have split := List.takeWhile_append_dropWhile (p := Char.isDigit) (l := text)
  unfold read at success
  dsimp only at success
  split at success
  case h_1 after same =>
    have inner := List.takeWhile_append_dropWhile (p := Char.isDigit) (l := after)
    split at success
    · cases success
    · split at success
      · cases success
      · cases success
        rw [same] at split
        simp [chars, inner, split]
  case h_2 =>
    split at success
    · cases success
    · cases success
      exact split.symm

/-- A literal has characters. -/
theorem chars_ne_nil_of_read {text rest : List Char} {numeral : Numeral}
    (success : read text = .ok (numeral, rest)) : numeral.chars ≠ [] := by
  unfold read at success
  dsimp only at success
  split at success
  · split at success
    · cases success
    · split at success
      · cases success
      · cases success
        simp [chars]
  · split at success
    · cases success
    case isFalse some =>
      cases success
      simpa [chars] using some

/-- What is converted has the length it is converted with. -/
theorem convert_eq_ok_iff {literal : Option (List Char)} {length length' : Nat} {value : Float} :
    convert literal length = .ok (value, length') ↔
      literal.bind Binary64.ofText? = some value ∧ length = length' := by
  unfold convert
  cases literal.bind Binary64.ofText? with
  | none => simp
  | some value => simp

/-- A literal that is parsed has been read, and its characters say its number. -/
theorem exists_read_of_parse {text : List Char} {value : Float} {length : Nat}
    (success : parse text = .ok (value, length)) :
    ∃ numeral rest, read text = .ok (numeral, rest) ∧
      Binary64.ofText? numeral.chars = some value ∧ numeral.chars.length = length := by
  unfold parse at success
  split at success
  case h_1 => cases success
  case h_2 numeral rest reads => exact ⟨numeral, rest, reads, convert_eq_ok_iff.mp success⟩

/-- What is left behind a literal is shorter than the text. -/
theorem length_drop_lt_of_parse {text : List Char} {value : Float} {length : Nat}
    (success : parse text = .ok (value, length)) : (text.drop length).length < text.length := by
  obtain ⟨numeral, rest, reads, -, rfl⟩ := exists_read_of_parse success
  have some := List.length_pos_iff.mpr (chars_ne_nil_of_read reads)
  rw [read_append reads, List.drop_left, List.length_append]
  omega

end Numeral

end Calculator
