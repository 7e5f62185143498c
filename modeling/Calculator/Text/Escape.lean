import Calculator.Text.Extender
import Calculator.Text.Ignorable
import Calculator.Text.Invisible

/-! # Quoted texts

Two quoted forms: the one in which logs and outlines show a text, and the JSON string. Both write
some characters as escapes; they differ in which and how. A shown text leaves no doubt about its
characters: whatever would not be seen, or seen only as part of another character, is written as
its code point. JSON escapes no more than it has to.
-/

namespace Calculator.Text

/-- A number in hexadecimal, lower case, without leading zeros. -/
def hex (n : Nat) : List Char := Nat.toDigits 16 n

/-- A character inside a text shown in a log or an outline. -/
def showChar (c : Char) : List Char :=
  if c = '"' then ['\\', '"']
  else if c = '\\' then ['\\', '\\']
  else if c = '\n' then ['\\', 'n']
  else if c = '\r' then ['\\', 'r']
  else if c = '\t' then ['\\', 't']
  else if c.toNat = 0 then ['\\', '0']
  else if isExtender c || isIgnorable c || isInvisible c then
    ['\\', 'u', '{'] ++ hex c.toNat ++ ['}']
  else [c]

/-- A text as logs and outlines show it. -/
def shown (text : String) : String :=
  String.ofList ('"' :: text.toList.flatMap showChar ++ ['"'])

/-- A character inside a JSON string. -/
def jsonChar (c : Char) : List Char :=
  if c = '"' then ['\\', '"']
  else if c = '\\' then ['\\', '\\']
  else if c.toNat = 0x08 then ['\\', 'b']
  else if c.toNat = 0x0C then ['\\', 'f']
  else if c = '\n' then ['\\', 'n']
  else if c = '\r' then ['\\', 'r']
  else if c = '\t' then ['\\', 't']
  else if c.toNat < 0x10 then ['\\', 'u', '0', '0', '0'] ++ hex c.toNat
  else if c.toNat < 0x20 then ['\\', 'u', '0', '0'] ++ hex c.toNat
  else [c]

end Calculator.Text
