import Calculator.Number.Style
import Calculator.Text.Escape

/-! # Serializers

An answer is sent as a record: named members that hold texts or numbers. A serializer turns records
into texts. One that writes JSON settles two things, what stands for a character inside a string
and what for a number; quotes, colons, commas and braces are the same for all of them.
-/

namespace Calculator

/-- What a member of a record holds. -/
inductive Field where
  | text (content : String)
  | number (value : Float)
deriving DecidableEq, Repr

/-- The members of a record with their names, in order. -/
abbrev Record := List (String × Field)

/-- A serializer turns a record into a text, or says why it does not. -/
abbrev Serializer := Record → Except String String

/-- The choices behind a JSON text. -/
structure JsonWriter where
  /-- What stands for a character inside a string. -/
  escape : Char → List Char
  /-- What stands for a number. -/
  numeral : Float → List Char

namespace JsonWriter

/-- A text as a JSON string. -/
def string (writer : JsonWriter) (text : String) : List Char :=
  '"' :: text.toList.flatMap writer.escape ++ ['"']

/-- What a member holds. -/
def field (writer : JsonWriter) : Field → List Char
  | .text content => writer.string content
  | .number value => writer.numeral value

/-- A member with its name. -/
def member (writer : JsonWriter) (member : String × Field) : List Char :=
  writer.string member.1 ++ ':' :: writer.field member.2

/-- A record as a JSON object. -/
def object (writer : JsonWriter) (record : Record) : String :=
  String.ofList ('\x7b' :: List.intercalate [','] (record.map writer.member) ++ ['\x7d'])

/-- Shortest digits and no more escapes than JSON asks for; it has no infinities and no NaN. -/
def standard : JsonWriter where
  escape := Text.jsonChar
  numeral x := if x.isFinite then NumberStyle.json.write x else "null".toList

end JsonWriter

/-- The serializer that writes JSON by these choices. -/
def Serializer.json : Serializer := fun record => .ok (JsonWriter.standard.object record)

end Calculator
