import Calculator.Serializer
import Calculator.Solve
import Calculator.Text.Blank

/-! # Answers of a service

What a service returns for a query: a status, and a record that is sent as a JSON object. How a
record becomes a text is left to a serializer.
-/

namespace Calculator

/-- The status of a query that was answered. -/
def statusOk : Nat := 200

/-- The status of a query that cannot be answered. -/
def statusBadRequest : Nat := 400

/-- The status of an answer that cannot be written. -/
def statusInternalError : Nat := 500

/-- The status of a fault: every one of them lies in the equation that was asked about. -/
def Fault.status (_ : Fault) : Nat := statusBadRequest

/-- The answer to a query. -/
inductive Answer where
  | solution (equation : String) (result : Float)
  | failure (status : Nat) (message : String)
deriving DecidableEq, Repr

namespace Answer

/-- What is said of a query without an equation. -/
def missingEquation : String := "Missing or invalid 'equation' parameter."

/-- The answer to a query; a blank equation counts as none. -/
def ofQuery (limits : Limits) : Option String → Answer
  | none => failure statusBadRequest missingEquation
  | some equation =>
    if Text.isBlank equation then failure statusBadRequest missingEquation
    else
      match solve limits equation with
      | .ok result => solution equation result
      | .error fault => failure fault.status fault.message

/-- The status of an answer. -/
def status : Answer → Nat
  | solution .. => statusOk
  | failure status _ => status

/-- Whether the status says that the query was answered. -/
def isSuccess (answer : Answer) : Bool := answer.status == statusOk

/-- The record in which an answer is sent; its status travels beside it. -/
def record : Answer → Record
  | solution equation result => [("equation", .text equation), ("result", .number result)]
  | failure _ message => [("error", .text message)]

/-- The record of an answer as a text. -/
def toJson (serialize : Serializer) (answer : Answer) : Except String String :=
  serialize answer.record

/-- The text of an answer whatever becomes of its record: what went wrong with it stands in, and a
fixed text where that cannot be written either. -/
def line (serialize : Serializer) (answer : Answer) : String :=
  match answer.toJson serialize with
  | .ok text => text
  | .error reason =>
    match (failure statusInternalError reason).toJson serialize with
    | .ok text => text
    | .error _ => "\x7b\"error\":\"Internal Server Error\"\x7d"

/-- The body of an answer. -/
def body (answer : Answer) : String := answer.line Serializer.json

end Answer

end Calculator
