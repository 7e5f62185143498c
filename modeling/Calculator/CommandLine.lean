import Calculator.CommandLine.Arguments

/-! # The command line

The program with its own reader of arguments, plain reports of one line for each part of a fault,
and the serializer that writes JSON.
-/

namespace Calculator.CommandLine

/-- A fault in full, one line for the sentence, each remark and the help. -/
def report (fault : Fault) : String :=
  let remarks := fault.labels.map fun label =>
    s!"  {label.text} ({label.span.start}..{label.span.stop})\n"
  let help := (fault.help?.map fun text => s!"  help: {text}\n").toList
  s!"{fault.code}: {fault.message}\n" ++ String.join (remarks ++ help)

/-- A token with its place. -/
def note (token : Token) : String :=
  s!"{token.lexeme.description} ({token.span.start}..{token.span.stop})\n"

/-- The program as it is called. -/
def Program.standard : Program where
  read := readArguments
  report _ := CommandLine.report
  note _ := CommandLine.note
  serialize := Serializer.json

/-- Shows an equation. -/
def present (mode : Mode) (limits : Limits) (equation : String) : Outcome :=
  Program.standard.present mode limits equation

/-- The effect of the program on its arguments. -/
def run (arguments : List String) : Outcome := Program.standard.run arguments

end Calculator.CommandLine
