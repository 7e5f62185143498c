import Calculator.Number.Decimal

/-! # Reading JSON

A reader for the whole of JSON, strict in that a text is read only if it is one JSON value and
nothing else. A number is read as the binary64 number nearest to it, and the members of an object
are kept in their order.
-/

namespace Calculator

/-- A JSON value. -/
inductive Json where
  | null
  | bool (value : Bool)
  | number (value : Float)
  | string (text : String)
  | array (items : List Json)
  | object (members : List (String × Json))

namespace Json

/-- What a reader takes off the start of a text, and the text that it leaves. -/
abbrev Taken (α : Type) (text : List Char) :=
  Option (α × { rest : List Char // rest.length ≤ text.length })

/-- That a reader takes `result` off a text and leaves `rest`. -/
def Takes {α : Type} (reader : (text : List Char) → Taken α text) (text : List Char) (result : α)
    (rest : List Char) : Prop :=
  ∃ shorter, reader text = some (result, ⟨rest, shorter⟩)

/-- Whether a character may stand between the parts of a JSON text. -/
def isSpace (c : Char) : Bool := c = ' ' || c = '\t' || c = '\n' || c = '\r'

/-- A text from its first character that is no space. -/
def skip (text : List Char) : List Char := text.dropWhile isSpace

theorem length_skip_le (text : List Char) : (skip text).length ≤ text.length :=
  (List.dropWhile_sublist _).length_le

/-- The first character that is no space, and what stands behind it. -/
def next (text : List Char) : Option (Char × { rest : List Char // rest.length < text.length }) :=
  match left : skip text with
  | [] => none
  | c :: rest => some (c, ⟨rest, by
      have shorter := length_skip_le text
      rw [left] at shorter
      exact shorter⟩)

theorem skip_cons {c : Char} (solid : isSpace c = false) (rest : List Char) :
    skip (c :: rest) = c :: rest :=
  List.dropWhile_cons_of_neg (Bool.eq_false_iff.mp solid)

theorem next_cons {c : Char} (solid : isSpace c = false) (rest : List Char) :
    next (c :: rest) = some (c, ⟨rest, Nat.lt_succ_self _⟩) := by
  unfold next
  split
  case h_1 left =>
    rw [skip_cons solid] at left
    cases left
  case h_2 left =>
    rw [skip_cons solid] at left
    cases left
    rfl

/-- One digit or more. -/
def digits (text : List Char) : Taken (List Char) text :=
  if text.takeWhile Char.isDigit = [] then none
  else some (text.takeWhile Char.isDigit,
    ⟨text.dropWhile Char.isDigit, (List.dropWhile_sublist _).length_le⟩)

/-- The digits before the point, which start with a zero only if it is the only one. -/
def whole (text : List Char) : Taken (List Char) text :=
  match text with
  | '0' :: rest => some (['0'], ⟨rest, Nat.le_succ _⟩)
  | text => digits text

/-- The digits after the point, none without a point. -/
def fraction (text : List Char) : Taken (List Char) text :=
  match text with
  | '.' :: rest => do
    let (places, ⟨rest, le⟩) ← digits rest
    return (places, ⟨rest, Nat.le_succ_of_le le⟩)
  | text => some ([], ⟨text, Nat.le_refl _⟩)

/-- A whole number with a sign, which need not be there. -/
def signed (text : List Char) : Taken Int text :=
  match text with
  | '-' :: rest => do
    let (digits, ⟨rest, le⟩) ← digits rest
    return (-Nat.ofDigitChars 10 digits 0, ⟨rest, Nat.le_succ_of_le le⟩)
  | '+' :: rest => do
    let (digits, ⟨rest, le⟩) ← digits rest
    return (Nat.ofDigitChars 10 digits 0, ⟨rest, Nat.le_succ_of_le le⟩)
  | text => do
    let (digits, rest) ← digits text
    return (Nat.ofDigitChars 10 digits 0, rest)

/-- The power of ten behind a number, zero if there is none. -/
def exponent (text : List Char) : Taken Int text :=
  match text with
  | 'e' :: rest | 'E' :: rest => do
    let (power, ⟨rest, le⟩) ← signed rest
    return (power, ⟨rest, Nat.le_succ_of_le le⟩)
  | text => some (0, ⟨text, Nat.le_refl _⟩)

/-- A number without a sign. -/
def magnitude (text : List Char) : Taken Decimal text := do
  let (whole, ⟨rest, le⟩) ← whole text
  let (fraction, ⟨rest', le'⟩) ← fraction rest
  let (exponent, ⟨rest'', le''⟩) ← exponent rest'
  return (⟨Nat.ofDigitChars 10 (whole ++ fraction) 0, exponent - fraction.length⟩,
    ⟨rest'', Nat.le_trans (Nat.le_trans le'' le') le⟩)

/-- A number. -/
def numeral (text : List Char) : Taken Float text :=
  match text with
  | '-' :: rest => do
    let (decimal, ⟨rest, le⟩) ← magnitude rest
    return (-decimal.toFloat, ⟨rest, Nat.le_succ_of_le le⟩)
  | text => do
    let (decimal, rest) ← magnitude text
    return (decimal.toFloat, rest)

/-- The character that a letter stands for behind a backslash. -/
def escaped? : Char → Option Char
  | '"' => some '"'
  | '\\' => some '\\'
  | '/' => some '/'
  | 'b' => some '\x08'
  | 'f' => some '\x0c'
  | 'n' => some '\n'
  | 'r' => some '\r'
  | 't' => some '\t'
  | _ => none

/-- The value of a hexadecimal digit, in either case. -/
def hexDigit? (c : Char) : Option Nat :=
  if c.isDigit then some (c.toNat - '0'.toNat)
  else if 'a' ≤ c && c ≤ 'f' then some (c.toNat - 'a'.toNat + 10)
  else if 'A' ≤ c && c ≤ 'F' then some (c.toNat - 'A'.toNat + 10)
  else none

/-- The number that four hexadecimal digits denote. -/
def codeUnit (text : List Char) : Taken Nat text :=
  match text with
  | first :: second :: third :: fourth :: rest => do
    let first ← hexDigit? first
    let second ← hexDigit? second
    let third ← hexDigit? third
    let fourth ← hexDigit? fourth
    return (((first * 16 + second) * 16 + third) * 16 + fourth,
      ⟨rest, by simp only [List.length_cons]; omega⟩)
  | _ => none

/-- The code unit of an escape that follows another one. -/
def lowHalf (text : List Char) : Taken Nat text :=
  match text with
  | '\\' :: 'u' :: rest => do
    let (unit, ⟨rest, le⟩) ← codeUnit rest
    return (unit, ⟨rest, by simp only [List.length_cons]; omega⟩)
  | _ => none

/-- The character that two surrogates stand for together. -/
def pair? (high low : Nat) : Option Char :=
  if 0xD800 ≤ high && high < 0xDC00 && 0xDC00 ≤ low && low < 0xE000 then
    some (Char.ofNat (0x10000 + (high - 0xD800) * 0x400 + (low - 0xDC00)))
  else none

/-- What stands behind a backslash. -/
def escape (text : List Char) : Taken Char text :=
  match text with
  | [] => none
  | 'u' :: rest => do
    let (unit, ⟨rest', le⟩) ← codeUnit rest
    if unit.isValidChar then return (Char.ofNat unit, ⟨rest', Nat.le_succ_of_le le⟩)
    else
      let (low, ⟨rest'', le'⟩) ← lowHalf rest'
      let char ← pair? unit low
      return (char, ⟨rest'', Nat.le_succ_of_le (Nat.le_trans le' le)⟩)
  | c :: rest => (escaped? c).map fun char => (char, ⟨rest, Nat.le_succ _⟩)

/-- The characters of a string up to its closing quote. -/
def characters (text : List Char) : Taken (List Char) text :=
  match text with
  | [] => none
  | '"' :: rest => some ([], ⟨rest, Nat.le_succ _⟩)
  | '\\' :: rest => do
    let (char, ⟨rest', le⟩) ← escape rest
    let (more, ⟨rest'', le'⟩) ← characters rest'
    return (char :: more, ⟨rest'', Nat.le_succ_of_le (Nat.le_trans le' le)⟩)
  | char :: rest =>
    if char.toNat < 0x20 then none
    else do
      let (more, ⟨rest', le⟩) ← characters rest
      return (char :: more, ⟨rest', Nat.le_succ_of_le le⟩)
termination_by text.length
decreasing_by all_goals simp only [List.length_cons]; omega

/-- A word that is a value. -/
def keyword (word : String) (json : Json) (text : List Char) : Taken Json text :=
  if word.toList.isPrefixOf text then
    some (json, ⟨text.drop word.length, (List.drop_sublist _ _).length_le⟩)
  else none

mutual

/-- A value. -/
def value (text : List Char) : Taken Json text :=
  match text with
  | '"' :: rest => do
    let (chars, ⟨rest', le⟩) ← characters rest
    return (.string (String.ofList chars), ⟨rest', Nat.le_succ_of_le le⟩)
  | '[' :: rest => do
    let (c, ⟨rest', lt⟩) ← next rest
    if c = ']' then return (.array [], ⟨rest', Nat.le_succ_of_le (Nat.le_of_lt lt)⟩)
    else
      let (items, ⟨rest', le⟩) ← items rest
      return (.array items, ⟨rest', Nat.le_succ_of_le le⟩)
  | '\x7b' :: rest => do
    let (c, ⟨rest', lt⟩) ← next rest
    if c = '\x7d' then return (.object [], ⟨rest', Nat.le_succ_of_le (Nat.le_of_lt lt)⟩)
    else
      let (members, ⟨rest', le⟩) ← members rest
      return (.object members, ⟨rest', Nat.le_succ_of_le le⟩)
  | 'n' :: rest => keyword "null" .null ('n' :: rest)
  | 't' :: rest => keyword "true" (.bool true) ('t' :: rest)
  | 'f' :: rest => keyword "false" (.bool false) ('f' :: rest)
  | text => do
    let (x, rest) ← numeral text
    return (.number x, rest)
termination_by 2 * text.length

/-- The items of an array, from the first one or from one behind a comma. -/
def items (text : List Char) : Taken (List Json) text := do
  have le := length_skip_le text
  let (item, ⟨rest, le'⟩) ← value (skip text)
  let (c, ⟨rest', lt⟩) ← next rest
  if c = ']' then return ([item], ⟨rest', by omega⟩)
  else if c = ',' then
    let (more, ⟨rest'', le''⟩) ← items rest'
    return (item :: more, ⟨rest'', by omega⟩)
  else none
termination_by 2 * text.length + 1

/-- The members of an object, from the first one or from one behind a comma. -/
def members (text : List Char) : Taken (List (String × Json)) text := do
  let (quote, ⟨rest, lt⟩) ← next text
  if quote = '"' then
    let (key, ⟨rest, le⟩) ← characters rest
    let (colon, ⟨rest, lt'⟩) ← next rest
    if colon = ':' then
      have le' := length_skip_le rest
      let (json, ⟨rest, le''⟩) ← value (skip rest)
      let (c, ⟨rest, lt''⟩) ← next rest
      if c = '\x7d' then return ([(String.ofList key, json)], ⟨rest, by omega⟩)
      else if c = ',' then
        let (more, ⟨rest, le'''⟩) ← members rest
        return ((String.ofList key, json) :: more, ⟨rest, by omega⟩)
      else none
    else none
  else none
termination_by 2 * text.length + 1

end

/-- The value that a text denotes, if it is JSON. -/
def decode (text : String) : Option Json := do
  let (json, ⟨rest, _⟩) ← value (skip text.toList)
  if rest.all isSpace then some json else none

end Json

end Calculator
