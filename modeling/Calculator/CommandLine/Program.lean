import Calculator.Answer

/-! # The program

What the program does once its arguments are read: it shows an equation in one of four modes under
the limits that were asked for, and ends with an exit code and two texts. How arguments are read,
how a fault and a token are drawn, and how an answer becomes a text is left to others.
-/

namespace Calculator.CommandLine

/-- The effect of the program. -/
structure Outcome where
  exitCode : Nat
  output : String
  diagnostics : String
deriving DecidableEq, Repr

/-- The options that stand alone. -/
inductive Flag where
  | json
  | debugLexer
  | debugParser
  | noFunctions
deriving DecidableEq, Repr

/-- The limits where nothing else is asked for. -/
def defaults : Limits := {}

/-- What the arguments say. -/
structure Input where
  equation : String
  json : Bool := false
  debugLexer : Bool := false
  debugParser : Bool := false
  maxDepth : Nat := defaults.maxDepth
  maxTreeHeight : Nat := defaults.maxHeight
  maxInputLen : Nat := defaults.maxLength
  noFunctions : Bool := false
deriving DecidableEq, Repr

/-- What is shown of an equation: its value, an answer in JSON, its tokens or its tree. -/
inductive Mode where
  | value
  | json
  | tokens
  | tree
deriving DecidableEq, Repr

namespace Input

/-- The limits that are asked for. -/
def limits (input : Input) : Limits :=
  [.maxDepth input.maxDepth, .maxHeight input.maxTreeHeight, .maxLength input.maxInputLen,
    .functions !input.noFunctions].foldl Limits.set defaults

/-- The mode that is asked for; debugging goes before JSON, the scanner before the parser. -/
def mode (input : Input) : Mode :=
  if input.debugLexer then .tokens
  else if input.debugParser then .tree
  else if input.json then .json
  else .value

end Input

/-- What the program leaves to others. -/
structure Program where
  /-- Reads arguments; where they cannot be followed or only ask for help, nothing else happens. -/
  read : List String → Except Outcome Input
  /-- Reports a fault of an equation. -/
  report : String → Fault → String
  /-- Points at a token of an equation. -/
  note : String → Token → String
  /-- Turns the record of an answer into a text. -/
  serialize : Serializer

namespace Program

/-- Lists the items of a scan up to its first fault. -/
def listItems (program : Program) (equation : String) : List Item → Outcome
  | [] => ⟨0, "", ""⟩
  | .error fault :: _ => ⟨1, "", program.report equation (.scan fault)⟩
  | .ok token :: rest =>
    let outcome := program.listItems equation rest
    { outcome with diagnostics := program.note equation token ++ outcome.diagnostics }

/-- Shows an equation. -/
def present (program : Program) (mode : Mode) (limits : Limits) (equation : String) : Outcome :=
  match mode with
  | .tokens => program.listItems equation (scan limits.functions equation)
  | .tree =>
    match parseEquation limits equation with
    | .error fault => ⟨1, "", program.report equation fault⟩
    | .ok tree => ⟨0, s!"postfix: {tree.polish}\n", tree.outline ++ "\n"⟩
  | .json =>
    let answer := Answer.ofQuery limits (some equation)
    ⟨if answer.isSuccess then 0 else 1, answer.line program.serialize ++ "\n", ""⟩
  | .value =>
    match solve limits equation with
    | .error fault => ⟨1, "", program.report equation fault⟩
    | .ok value => ⟨0, plainText value ++ "\n", ""⟩

/-- The effect of the program on its arguments. -/
def run (program : Program) (arguments : List String) : Outcome :=
  match program.read arguments with
  | .error outcome => outcome
  | .ok input => program.present input.mode input.limits input.equation

end Program

end Calculator.CommandLine
