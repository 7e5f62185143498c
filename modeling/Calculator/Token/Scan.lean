import Calculator.Fault
import Calculator.Limits

/-! # Scanning

The text of an equation becomes a list of items, tokens and faults, each with its bytes. A minus
sign joins the literal after it wherever no operand stands before it. After a fault the scan goes
on: past a foreign character, and one character into a malformed literal.

`tokenize` is the scan of an equation that is short enough, has no fault, and in which no two
neighbouring tokens exclude each other.
-/

namespace Calculator

/-- One item of a scan. -/
abbrev Item := Except ScanFault Token

/-- Where a scan stands: the text that is left, its position in bytes, and the last lexeme that
was read. -/
structure Scanner where
  position : Nat
  rest : List Char
  previous : Option Lexeme
deriving DecidableEq, Repr

namespace Scanner

/-- Whether a character separates tokens: space, tab, line feed, form feed, carriage return. -/
def isSpace (c : Char) : Bool :=
  c = ' ' || c = '\t' || c = '\n' || c.toNat = 0x0C || c = '\r'

/-- Whether a text starts like a literal. -/
def startsLiteral (text : List Char) : Bool := text.head?.any Numeral.isStart

/-- Whether a minus sign belongs to a literal that follows it. -/
def minusIsUnary (scanner : Scanner) : Bool :=
  match scanner.previous with
  | none => true
  | some (.symbol sign) => sign != .closeParen
  | some _ => false

/-- Passes over the space before the next item. -/
def skip (scanner : Scanner) : Scanner :=
  { scanner with
    position := scanner.position + (scanner.rest.takeWhile isSpace).length
    rest := scanner.rest.dropWhile isSpace }

/-- Reads a token that ends at `stop`, before the text `rest`. -/
def accept (scanner : Scanner) (lexeme : Lexeme) (stop : Nat) (rest : List Char) :
    Item × Scanner :=
  (.ok ⟨lexeme, ⟨scanner.position, stop⟩⟩, ⟨stop, rest, some lexeme⟩)

/-- Reports a fault and goes on at `position`, with the text `rest`. -/
def reject (scanner : Scanner) (fault : ScanFault) (position : Nat) (rest : List Char) :
    Item × Scanner :=
  (.error fault, ⟨position, rest, scanner.previous⟩)

/-- Reads the literal of `digits` after the characters of `sign`. If it is none, the scan goes on
with `rest`, the text one character on. -/
def literal (scanner : Scanner) (sign digits rest : List Char) : Item × Scanner :=
  let start := scanner.position + sign.length
  match Numeral.parse digits with
  | .ok (value, length) =>
    let value := if sign.isEmpty then value else -value
    scanner.accept (.number value) (start + length) (digits.drop length)
  | .error (cause, length) =>
    let text := String.ofList (sign ++ digits.take length)
    scanner.reject (.malformedNumber text cause ⟨scanner.position, start + length⟩)
      (scanner.position + 1) rest

/-- Reads the item that starts with the character `c`, before the text `rest`. -/
def item (functions : Bool) (scanner : Scanner) (c : Char) (rest : List Char) : Item × Scanner :=
  match Symbol.ofChar? c with
  | some sign =>
    if sign = .minus && scanner.minusIsUnary && startsLiteral rest then
      scanner.literal [c] rest rest
    else scanner.accept (.symbol sign) (scanner.position + 1) rest
  | none =>
    if Numeral.isStart c then scanner.literal [] (c :: rest) rest
    else if functions && c.isAlpha then
      let name := c :: rest.takeWhile Char.isAlpha
      scanner.accept (.function (String.ofList name)) (scanner.position + name.length)
        (rest.dropWhile Char.isAlpha)
    else
      let stop := scanner.position + c.utf8Size
      scanner.reject (.unexpectedCharacter c ⟨scanner.position, stop⟩) stop rest

/-- Reads the next item, if anything but space is left. -/
def next (functions : Bool) (scanner : Scanner) : Option Item × Scanner :=
  let scanner := scanner.skip
  match scanner.rest with
  | [] => (none, scanner)
  | c :: rest =>
    let (item, scanner) := scanner.item functions c rest
    (some item, scanner)

theorem length_rest_item_le (functions : Bool) (scanner : Scanner) (c : Char) (rest : List Char) :
    (scanner.item functions c rest).2.rest.length ≤ rest.length := by
  unfold item
  split
  · split
    · unfold literal
      split
      case h_1 success => exact Nat.le_of_lt (Numeral.length_drop_lt_of_parse success)
      · exact Nat.le_refl _
    · exact Nat.le_refl _
  · split
    · unfold literal
      split
      case h_1 success => exact Nat.le_of_lt_succ (Numeral.length_drop_lt_of_parse success)
      · exact Nat.le_refl _
    · split
      · exact (List.dropWhile_sublist _).length_le
      · exact Nat.le_refl _

/-- Reading an item leaves less text. -/
theorem length_rest_next_lt {functions : Bool} {scanner after : Scanner} {item : Item}
    (success : scanner.next functions = (some item, after)) :
    after.rest.length < scanner.rest.length := by
  unfold next at success
  dsimp only at success
  split at success
  · cases success
  case h_2 c rest same =>
    cases success
    have skipped : scanner.skip.rest.length ≤ scanner.rest.length :=
      (List.dropWhile_sublist _).length_le
    rw [same, List.length_cons] at skipped
    exact Nat.lt_of_le_of_lt (length_rest_item_le ..) skipped

/-- The items that are left. -/
def items (functions : Bool) (scanner : Scanner) : List Item :=
  match _ : scanner.next functions with
  | (none, _) => []
  | (some item, after) => item :: after.items functions
termination_by scanner.rest.length
decreasing_by exact length_rest_next_lt (by assumption)

/-- A scanner at the start of an equation. -/
def start (equation : String) : Scanner := ⟨0, equation.toList, none⟩

end Scanner

/-- The items of an equation, to its end. -/
def scan (functions : Bool) (equation : String) : List Item :=
  (Scanner.start equation).items functions

namespace Token

/-- The tokens of a scan without faults, or its first fault. -/
def collect : List Item → Except ScanFault (List Token)
  | [] => .ok []
  | .error fault :: _ => .error fault
  | .ok token :: rest => (collect rest).map (token :: ·)

/-- What is wrong with two neighbouring tokens, whatever surrounds them. -/
def clash? (before after : Token) : Option ScanFault :=
  if before.lexeme.endsOperand && after.lexeme.startsOperand then
    some (.missingOperator before.lexeme after.lexeme ⟨before.span.stop, after.span.start⟩)
  else
    match before.lexeme, after.lexeme with
    | .symbol first, .symbol second =>
      if first.isBinary && second.isBinary && second != .minus then
        some (.consecutiveOperators first second ⟨before.span.start, after.span.stop⟩)
      else none
    | _, _ => none

/-- What is wrong with the first two neighbours that exclude each other. -/
def firstClash? : List Token → Option ScanFault
  | before :: after :: rest => (clash? before after).or (firstClash? (after :: rest))
  | _ => none

end Token

/-- The tokens of an equation. -/
def tokenize (limits : Limits) (equation : String) : Except ScanFault (List Token) :=
  if limits.maxLength < equation.utf8ByteSize then
    .error (.inputTooLong equation.utf8ByteSize limits.maxLength)
  else
    match Token.collect (scan limits.functions equation) with
    | .error fault => .error fault
    | .ok tokens =>
      match Token.firstClash? tokens with
      | some fault => .error fault
      | none => .ok tokens

end Calculator
