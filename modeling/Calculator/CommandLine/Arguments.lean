import Calculator.CommandLine.Program

/-! # A reader of arguments

Arguments are read from left to right. Each is an option, the value of the option before it, or
the equation; the first that fits nowhere ends the reading, and so does a request for help or the
version. In both cases the program shows a text and nothing else happens.
-/

namespace Calculator.CommandLine

/-- The options that take a value. -/
inductive Bound where
  | maxDepth
  | maxTreeHeight
  | maxInputLen
deriving DecidableEq, Repr

/-- A long option. -/
inductive Switch where
  | flag (flag : Flag)
  | bound (bound : Bound)
  | help
  | version
deriving DecidableEq, Repr

/-- The option with a name, which has to be given in full. -/
def Switch.ofName? : String → Option Switch
  | "json" => some (flag .json)
  | "debug-lexer" => some (flag .debugLexer)
  | "debug-parser" => some (flag .debugParser)
  | "no-functions" => some (flag .noFunctions)
  | "max-depth" => some (bound .maxDepth)
  | "max-tree-height" => some (bound .maxTreeHeight)
  | "max-input-len" => some (bound .maxInputLen)
  | "help" => some help
  | "version" => some version
  | _ => none

/-- What an argument looks like. -/
inductive Argument where
  | terminator
  | long (name : String) (value? : Option String)
  | short (letter : Char)
  | operand (text : String)
deriving DecidableEq, Repr

/-- An argument with a hyphen is an option, a hyphen by itself is not. A long option carries the
value behind its first equals sign. -/
def Argument.ofText (text : String) : Argument :=
  match text.toList with
  | ['-', '-'] => terminator
  | '-' :: '-' :: body =>
    long (String.ofList (body.takeWhile (· != '=')))
      ((body.dropWhile (· != '=')).tail?.map String.ofList)
  | '-' :: letter :: _ => short letter
  | _ => operand text

/-- Why arguments cannot be followed. -/
inductive UsageFault where
  | unknownOption (argument : String)
  | repeatedOption (argument : String)
  | unexpectedValue (argument : String)
  | missingValue (argument : String)
  | invalidValue (value : String)
  | surplusArgument (argument : String)
  | missingEquation
deriving DecidableEq, Repr

/-- The sentence that reports a fault. -/
def UsageFault.message : UsageFault → String
  | unknownOption argument => s!"unknown option '{argument}'"
  | repeatedOption argument => s!"option '{argument}' is given twice"
  | unexpectedValue argument => s!"option '{argument}' takes no value"
  | missingValue argument => s!"option '{argument}' needs a value"
  | invalidValue value => s!"'{value}' is not a number of the expected size"
  | surplusArgument argument => s!"unexpected argument '{argument}'"
  | missingEquation => "an equation is required"

/-- What ends the reading of arguments early. -/
inductive Stop where
  | fault (fault : UsageFault)
  | help
  | version
deriving DecidableEq, Repr

/-- What the arguments read so far ask for. -/
structure Request where
  equation : Option String := none
  flags : List Flag := []
  bounds : List (Bound × Nat) := []
deriving DecidableEq, Repr

/-- A number below `2 ^ 64` in decimal digits, with a plus sign before them if one likes. -/
def readBound? (text : String) : Option Nat :=
  let digits := match text.toList with
    | '+' :: digits => digits
    | digits => digits
  let value := Nat.ofDigitChars 10 digits 0
  if !digits.isEmpty && digits.all Char.isDigit && value < 2 ^ 64 then some value else none

namespace Request

/-- The request after a flag; no flag is given twice. -/
def addFlag (request : Request) (argument : String) (flag : Flag) : Except Stop Request :=
  if flag ∈ request.flags then .error (.fault (.repeatedOption argument))
  else .ok { request with flags := flag :: request.flags }

/-- The request after an option with its value; none is given twice. -/
def addBound (request : Request) (argument : String) (bound : Bound) (value : String) :
    Except Stop Request :=
  if request.bounds.any (·.1 = bound) then .error (.fault (.repeatedOption argument))
  else
    match readBound? value with
    | none => .error (.fault (.invalidValue value))
    | some value => .ok { request with bounds := (bound, value) :: request.bounds }

/-- The request after an argument that is no option; there is one equation. -/
def addOperand (request : Request) (text : String) : Except Stop Request :=
  if request.equation.isSome then .error (.fault (.surplusArgument text))
  else .ok { request with equation := some text }

/-- Reads arguments none of which is an option. -/
def readOperands (request : Request) (arguments : List String) : Except Stop Request :=
  arguments.foldlM addOperand request

/-- Reads arguments. A value that stands by itself does not look like an option. -/
def read (request : Request) : List String → Except Stop Request
  | [] => .ok request
  | argument :: rest =>
    match Argument.ofText argument with
    | .terminator => request.readOperands rest
    | .operand text =>
      match request.addOperand text with
      | .error stop => .error stop
      | .ok request => request.read rest
    | .short 'V' => .error .version
    | .short 'h' => .error .help
    | .short _ => .error (.fault (.unknownOption argument))
    | .long name value? =>
      match Switch.ofName? name, value? with
      | none, _ => .error (.fault (.unknownOption argument))
      | some .version, none => .error .version
      | some .help, none => .error .help
      | some (.flag flag), none =>
        match request.addFlag argument flag with
        | .error stop => .error stop
        | .ok request => request.read rest
      | some (.bound bound), some value =>
        match request.addBound argument bound value with
        | .error stop => .error stop
        | .ok request => request.read rest
      | some (.bound bound), none =>
        match rest with
        | [] => .error (.fault (.missingValue argument))
        | value :: rest =>
          match Argument.ofText value with
          | .operand value =>
            match request.addBound argument bound value with
            | .error stop => .error stop
            | .ok request => request.read rest
          | _ => .error (.fault (.missingValue argument))
      | some _, some _ => .error (.fault (.unexpectedValue argument))

/-- The value of a bound, if it was given. -/
def bound? (request : Request) (bound : Bound) : Option Nat := request.bounds.lookup bound

/-- What a request says, once it holds an equation. -/
def input? (request : Request) : Option Input :=
  request.equation.map fun equation =>
    { equation
      json := .json ∈ request.flags
      debugLexer := .debugLexer ∈ request.flags
      debugParser := .debugParser ∈ request.flags
      maxDepth := (request.bound? .maxDepth).getD defaults.maxDepth
      maxTreeHeight := (request.bound? .maxTreeHeight).getD defaults.maxHeight
      maxInputLen := (request.bound? .maxInputLen).getD defaults.maxLength
      noFunctions := .noFunctions ∈ request.flags }

end Request

/-- How the program is called, line by line. -/
def usageLines : List String :=
  ["Usage: equation_solver [OPTIONS] <EQUATION>", "", "Arguments:",
    "  <EQUATION>  The equation to solve, e.g. \"2 + 3 * 4\"", "", "Options:",
    "      --json                               " ++
      "Print the response body a hosting service would send, as JSON",
    "      --debug-lexer                        " ++
      "Debug the lexer, printing out each token. Does not parse or evaluate the equation",
    "      --debug-parser                       " ++
      "Debug the parser, printing out the expression tree. Does not evaluate the equation",
    "      --max-depth <MAX_DEPTH>              " ++
      "Deepest nesting of parentheses, unary minus, function calls and exponents " ++
      s!"[default: {defaults.maxDepth}]",
    "      --max-tree-height <MAX_TREE_HEIGHT>  " ++
      "Tallest expression tree, counting every operator and function call " ++
      s!"[default: {defaults.maxHeight}]",
    "      --max-input-len <MAX_INPUT_LEN>      " ++
      s!"Longest equation accepted, in bytes [default: {defaults.maxLength}]",
    "      --no-functions                       Reject function calls such as sqrt(16)",
    "  -h, --help                               Print help",
    "  -V, --version                            Print version"]

/-- How the program is called. -/
def usage : String := String.join (usageLines.map (· ++ "\n"))

/-- The program's name and version. -/
def versionText : String := "equation_solver 0.1.0"

/-- The effect of arguments that cannot be followed. -/
def refuse (fault : UsageFault) : Outcome := ⟨2, "", s!"error: {fault.message}\n\n{usage}"⟩

/-- The effect of arguments whose reading ends early. -/
def Stop.outcome : Stop → Outcome
  | fault reason => refuse reason
  | help => ⟨0, usage, ""⟩
  | version => ⟨0, versionText ++ "\n", ""⟩

/-- Reads arguments, among which has to be an equation. -/
def readArguments (arguments : List String) : Except Outcome Input :=
  match Request.read {} arguments with
  | .error stop => .error stop.outcome
  | .ok request =>
    match request.input? with
    | none => .error (refuse .missingEquation)
    | some input => .ok input

end Calculator.CommandLine
