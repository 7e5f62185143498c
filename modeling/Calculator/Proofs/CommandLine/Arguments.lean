import Calculator.CommandLine

/-! # Flags

A flag before arguments that do without it changes what it stands for and nothing else. That much is
asked of any reader of arguments; the reader that is used here keeps to it, however the arguments
mix options, their values and the equation.
-/

namespace Calculator.CommandLine

/-- The name of a flag. -/
def Flag.name : Flag → String
  | json => "json"
  | debugLexer => "debug-lexer"
  | debugParser => "debug-parser"
  | noFunctions => "no-functions"

/-- The argument that a flag is given by. -/
def Flag.argument (flag : Flag) : String := "--" ++ flag.name

namespace Input

/-- Whether a flag is given. -/
def has (input : Input) : Flag → Bool
  | .json => input.json
  | .debugLexer => input.debugLexer
  | .debugParser => input.debugParser
  | .noFunctions => input.noFunctions

/-- The same with a flag. -/
def give (input : Input) : Flag → Input
  | .json => { input with json := true }
  | .debugLexer => { input with debugLexer := true }
  | .debugParser => { input with debugParser := true }
  | .noFunctions => { input with noFunctions := true }

end Input

/-- Whether a program can be given a flag before arguments that do without it. -/
def Program.TakesFlags (program : Program) : Prop :=
  ∀ arguments input flag, program.read arguments = .ok input → input.has flag = false →
    program.read (flag.argument :: arguments) = .ok (input.give flag)

/-- The request in which a flag was given before everything else. -/
def Request.withFlag (request : Request) (flag : Flag) : Request :=
  { request with flags := request.flags ++ [flag] }

namespace Request

/-- A request becomes another one by arguments, one rule for each way to read the next of them. -/
inductive Reads : Request → List String → Request → Prop
  | done {request} : Reads request [] request
  | operands {request final argument arguments} (ends : Argument.ofText argument = .terminator)
      (success : request.readOperands arguments = .ok final) :
    Reads request (argument :: arguments) final
  | operand {request next final argument text arguments}
      (plain : Argument.ofText argument = .operand text)
      (first : request.addOperand text = .ok next) (more : Reads next arguments final) :
    Reads request (argument :: arguments) final
  | flag {request next final argument name flag arguments}
      (long : Argument.ofText argument = .long name none)
      (known : Switch.ofName? name = some (.flag flag))
      (first : request.addFlag argument flag = .ok next) (more : Reads next arguments final) :
    Reads request (argument :: arguments) final
  | attached {request next final argument name value bound arguments}
      (long : Argument.ofText argument = .long name (some value))
      (known : Switch.ofName? name = some (.bound bound))
      (first : request.addBound argument bound value = .ok next)
      (more : Reads next arguments final) :
    Reads request (argument :: arguments) final
  | separate {request next final argument name second value bound arguments}
      (long : Argument.ofText argument = .long name none)
      (known : Switch.ofName? name = some (.bound bound))
      (plain : Argument.ofText second = .operand value)
      (first : request.addBound argument bound value = .ok next)
      (more : Reads next arguments final) :
    Reads request (argument :: second :: arguments) final

variable {request next final : Request} {arguments : List String} {flag given : Flag}
  {argument text value : String} {bound : Bound}

theorem read_eq_ok_iff : request.read arguments = .ok final ↔ Reads request arguments final := by
  constructor
  · intro success
    fun_induction read request arguments with
    | case1 =>
      cases success
      exact .done
    | case2 _ _ _ ends => exact .operands ends success
    | case4 _ _ _ _ plain _ first ih => exact .operand plain first (ih success)
    | case12 _ _ _ _ _ known _ first long ih => exact .flag long known first (ih success)
    | case14 _ _ _ _ _ _ known _ first long ih => exact .attached long known first (ih success)
    | case17 _ _ _ _ known _ _ _ plain _ first long ih =>
      exact .separate long known plain first (ih success)
    | _ => cases success
  · intro reads
    induction reads with
    | done => rfl
    | operands ends success =>
      rw [read, ends]
      exact success
    | operand plain first _ ih =>
      rw [read, plain]
      simp only [first, ih]
    | flag long known first _ ih =>
      rw [read, long]
      simp only [known, first, ih]
    | attached long known first _ ih =>
      rw [read, long]
      simp only [known, first, ih]
    | separate long known plain first _ ih =>
      rw [read, long]
      simp only [known, plain, first, ih]

theorem addFlag_eq_ok_iff :
    request.addFlag argument given = .ok next ↔
      given ∉ request.flags ∧ { request with flags := given :: request.flags } = next := by
  unfold addFlag
  split
  case isTrue twice => simp [twice]
  case isFalse fresh => simp [fresh]

theorem addOperand_eq_ok_iff :
    request.addOperand text = .ok next ↔
      request.equation = none ∧ { request with equation := some text } = next := by
  unfold addOperand
  cases request.equation <;> simp

theorem addBound_eq_ok_iff :
    request.addBound argument bound value = .ok next ↔
      request.bounds.any (·.1 = bound) = false ∧ ∃ number, readBound? value = some number ∧
        { request with bounds := (bound, number) :: request.bounds } = next := by
  unfold addBound
  cases request.bounds.any (·.1 = bound) <;> cases readBound? value <;> simp

theorem readOperands_withFlag (success : request.readOperands arguments = .ok final) :
    (∀ flag, (request.withFlag flag).readOperands arguments = .ok (final.withFlag flag)) ∧
      final.flags = request.flags := by
  unfold readOperands at success ⊢
  induction arguments generalizing request with
  | nil =>
    cases success
    exact ⟨fun _ => rfl, rfl⟩
  | cons text arguments ih =>
    rw [List.foldlM_cons] at success
    cases first : request.addOperand text with
    | error stop =>
      rw [first] at success
      cases success
    | ok next =>
      rw [first] at success
      obtain ⟨none, rfl⟩ := addOperand_eq_ok_iff.mp first
      obtain ⟨more, same⟩ := ih success
      refine ⟨fun flag => ?_, same⟩
      have first' : (request.withFlag flag).addOperand text = .ok _ :=
        addOperand_eq_ok_iff.mpr ⟨none, rfl⟩
      rw [List.foldlM_cons, first']
      exact more flag

/-- Flags that are given stay given. -/
theorem Reads.flags_subset (reads : Reads request arguments final) :
    request.flags ⊆ final.flags := by
  induction reads with
  | done => exact List.Subset.refl _
  | operands _ success =>
    rw [(readOperands_withFlag success).2]
    exact List.Subset.refl _
  | operand _ first _ ih =>
    obtain ⟨-, rfl⟩ := addOperand_eq_ok_iff.mp first
    exact ih
  | flag _ _ first _ ih =>
    obtain ⟨-, rfl⟩ := addFlag_eq_ok_iff.mp first
    exact List.Subset.trans (List.subset_cons_self ..) ih
  | attached _ _ first _ ih | separate _ _ _ first _ ih =>
    obtain ⟨-, number, -, rfl⟩ := addBound_eq_ok_iff.mp first
    exact ih

/-- A flag that is not given later can be given first. -/
theorem Reads.withFlag (reads : Reads request arguments final) (fresh : flag ∉ final.flags) :
    Reads (request.withFlag flag) arguments (final.withFlag flag) := by
  induction reads with
  | done => exact .done
  | operands ends success => exact .operands ends ((readOperands_withFlag success).1 flag)
  | operand plain first _ ih =>
    obtain ⟨none, rfl⟩ := addOperand_eq_ok_iff.mp first
    exact .operand plain (addOperand_eq_ok_iff.mpr ⟨none, rfl⟩) (ih fresh)
  | flag long known first more ih =>
    obtain ⟨once, rfl⟩ := addFlag_eq_ok_iff.mp first
    refine .flag long known (addFlag_eq_ok_iff.mpr ⟨fun twice => ?_, rfl⟩) (ih fresh)
    rcases List.mem_append.mp twice with twice | same
    · exact once twice
    · rw [List.mem_singleton.mp same] at more
      exact fresh (more.flags_subset (List.mem_cons_self ..))
  | attached long known first _ ih =>
    obtain ⟨once, number, isNumber, rfl⟩ := addBound_eq_ok_iff.mp first
    exact .attached long known (addBound_eq_ok_iff.mpr ⟨once, number, isNumber, rfl⟩) (ih fresh)
  | separate long known plain first _ ih =>
    obtain ⟨once, number, isNumber, rfl⟩ := addBound_eq_ok_iff.mp first
    exact .separate long known plain (addBound_eq_ok_iff.mpr ⟨once, number, isNumber, rfl⟩)
      (ih fresh)

/-- Before arguments without it, a flag is read and changes nothing else. -/
theorem read_flag_cons (success : read {} arguments = .ok final) (fresh : flag ∉ final.flags) :
    read {} (flag.argument :: arguments) = .ok (final.withFlag flag) := by
  have long : Argument.ofText flag.argument = .long flag.name none := by
    cases flag <;> decide +kernel
  have known : Switch.ofName? flag.name = some (.flag flag) := by cases flag <;> decide
  have first : addFlag {} flag.argument flag = .ok (withFlag {} flag) :=
    addFlag_eq_ok_iff.mpr ⟨List.not_mem_nil, rfl⟩
  exact read_eq_ok_iff.mpr (.flag long known first ((read_eq_ok_iff.mp success).withFlag fresh))

theorem has_input {input : Input} (read : request.input? = some input) :
    input.has flag = decide (flag ∈ request.flags) := by
  obtain ⟨equation, -, rfl⟩ := Option.map_eq_some_iff.mp read
  cases flag <;> rfl

theorem input_withFlag {input : Input} (read : request.input? = some input) :
    (request.withFlag flag).input? = some (input.give flag) := by
  obtain ⟨equation, isEquation, rfl⟩ := Option.map_eq_some_iff.mp read
  rw [input?, withFlag, isEquation]
  cases flag <;> simp [Input.give, bound?]

end Request

theorem readArguments_eq_ok_iff {arguments : List String} {input : Input} :
    readArguments arguments = .ok input ↔
      ∃ request, Request.read {} arguments = .ok request ∧ request.input? = some input := by
  unfold readArguments
  cases Request.read {} arguments with
  | error stop => simp
  | ok request => cases found : request.input? <;> simp [found]

/-- The reader that is used here takes flags. -/
theorem Program.takesFlags_standard : standard.TakesFlags := by
  intro arguments input flag success fresh
  obtain ⟨request, reads, whole⟩ := readArguments_eq_ok_iff.mp success
  rw [Request.has_input whole, decide_eq_false_iff_not] at fresh
  exact readArguments_eq_ok_iff.mpr
    ⟨_, Request.read_flag_cons reads fresh, Request.input_withFlag whole⟩

end Calculator.CommandLine
