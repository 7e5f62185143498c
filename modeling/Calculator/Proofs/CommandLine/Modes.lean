import Calculator.Proofs.Answer.Query
import Calculator.Proofs.CommandLine.Arguments

/-! # One equation in all modes

Whatever the program shows of an equation, its exit code tells whether the equation could be worked
out as far as its mode goes. A flag before other arguments changes the mode that they ask for and
nothing else, so the modes can be compared on the same equation and the same limits. None of this
depends on how arguments are read or how anything is drawn, except that a flag can be given at all.
-/

namespace Calculator.CommandLine

/-- The flag of a mode; showing the value needs none. -/
def Mode.flag? : Mode → Option Flag
  | value => none
  | json => some .json
  | tokens => some .debugLexer
  | tree => some .debugParser

namespace Input

variable {input : Input} {flag : Flag}

/-- Where only the value is asked for, no flag of another mode is given. -/
theorem has_of_mode (plain : input.mode = .value) (mode : Mode) (own : mode.flag? = some flag) :
    input.has flag = false := by
  unfold Input.mode at plain
  split at plain
  · cases plain
  · split at plain
    · cases plain
    · split at plain
      · cases plain
      · cases mode <;> cases own <;> exact Bool.eq_false_iff.mpr ‹_›

theorem mode_give (plain : input.mode = .value) {mode : Mode} (own : mode.flag? = some flag) :
    (input.give flag).mode = mode := by
  have lexer : input.debugLexer = false := has_of_mode plain .tokens rfl
  have parser : input.debugParser = false := has_of_mode plain .tree rfl
  cases mode <;> cases own <;> simp [Input.mode, give, lexer, parser]

theorem limits_give {mode : Mode} (own : mode.flag? = some flag) :
    (input.give flag).limits = input.limits := by
  cases mode <;> cases own <;> rfl

end Input

open Answer

namespace Program

variable {program : Program} {arguments : List String} {mode : Mode} {limits : Limits}
  {equation : String} {value : Float} {fault : Fault} {flag : Flag}

/-- Whether arguments ask a program to show an equation in a mode, under some limits. -/
def Asks (program : Program) (arguments : List String) (mode : Mode) (limits : Limits)
    (equation : String) : Prop :=
  ∃ input, program.read arguments = .ok input ∧ input.equation = equation ∧ input.mode = mode ∧
    input.limits = limits

/-- The flag of a mode, before arguments that ask for the value, asks for that mode instead. -/
theorem Asks.cons (takes : program.TakesFlags)
    (asks : program.Asks arguments .value limits equation) (own : mode.flag? = some flag) :
    program.Asks (flag.argument :: arguments) mode limits equation := by
  obtain ⟨input, reads, rfl, plain, rfl⟩ := asks
  refine ⟨_, takes _ _ _ reads (Input.has_of_mode plain mode own), ?_, Input.mode_give plain own,
    Input.limits_give own⟩
  cases flag <;> rfl

theorem Asks.run_eq (asks : program.Asks arguments mode limits equation) :
    program.run arguments = program.present mode limits equation := by
  obtain ⟨input, reads, rfl, rfl, rfl⟩ := asks
  rw [run, reads]

theorem exitCode_listItems (program : Program) (equation : String) (tokens : List Token) :
    (program.listItems equation (tokens.map .ok)).exitCode = 0 := by
  induction tokens with
  | nil => rfl
  | cons token tokens ih => exact ih

/-- Where an equation has a value, no mode fails. -/
theorem exitCode_of_ok (program : Program) (solved : solve limits equation = .ok value)
    (mode : Mode) : (program.present mode limits equation).exitCode = 0 := by
  obtain ⟨tree, accepted, -⟩ := exists_tree_of_solve solved
  cases mode with
  | value => rw [present, solved]
  | json => rw [present, ofQuery_of_ok solved]; rfl
  | tree => rw [present, accepted]
  | tokens =>
    obtain ⟨tokens, tokenized, -⟩ := parseEquation_eq_ok_iff.mp accepted
    obtain ⟨-, scans, -⟩ := tokenize_eq_ok_iff.mp tokenized
    rw [present, scans]
    exact exitCode_listItems program equation tokens

/-- Where an equation has no value, neither its value nor an answer is shown. -/
theorem exitCode_of_error (program : Program) (failed : solve limits equation = .error fault)
    (answers : mode = .value ∨ mode = .json) :
    (program.present mode limits equation).exitCode = 1 := by
  rcases answers with rfl | rfl
  · rw [present, failed]
  · have fails : (ofQuery limits (some equation)).isSuccess ≠ true := by
      rw [Ne, isSuccess_ofQuery, failed]
      rintro ⟨_, ⟨⟩⟩
    rw [present]
    exact if_neg fails

end Program

/-- The answer to a query has status 200 just if its equation has a value, and then it carries both.
Otherwise it says what is wrong with the equation, or that there is none where all is white space;
that hides no value. The program, asked for the value or for an answer, exits with 0 just if there
is a value, and then it does so in all its modes. -/
theorem front_ends_agree (program : Program) (limits : Limits) (equation : String) :
    ((ofQuery limits (some equation)).status = 200 ↔
        ∃ value, solve limits equation = .ok value) ∧
      (∀ value, solve limits equation = .ok value →
        ofQuery limits (some equation) = .solution equation value) ∧
      (∀ fault, solve limits equation = .error fault →
        ofQuery limits (some equation) = .failure 400
          (if Text.Blank equation then "Missing or invalid 'equation' parameter."
            else fault.message)) ∧
      (∀ arguments, program.Asks arguments .value limits equation →
        (program.TakesFlags → ∀ mode flag, mode.flag? = some flag →
          program.Asks (flag.argument :: arguments) mode limits equation) ∧
        ((program.run arguments).exitCode = 0 ↔ ∃ value, solve limits equation = .ok value) ∧
        (∀ others, program.Asks others .json limits equation →
          (program.run others).exitCode = (program.run arguments).exitCode) ∧
        ((program.run arguments).exitCode = 0 →
          ∀ others mode, program.Asks others mode limits equation →
            (program.run others).exitCode = 0)) := by
  refine ⟨?_, fun value => ofQuery_of_ok, fun fault failed => ?_, fun arguments asks =>
    ⟨fun takes mode flag => asks.cons takes, ?_⟩⟩
  · rw [← isSuccess_ofQuery]
    exact beq_iff_eq.symm
  · split
    case isTrue blank => exact ofQuery_of_blank blank
    case isFalse visible => exact ofQuery_of_error failed visible
  · rw [asks.run_eq]
    cases answer : solve limits equation with
    | ok value =>
      have exits := program.exitCode_of_ok answer
      refine ⟨⟨fun _ => ⟨value, rfl⟩, fun _ => exits .value⟩, fun others asks' => ?_,
        fun _ others mode asks' => ?_⟩
      · rw [asks'.run_eq, exits, exits]
      · rw [asks'.run_eq, exits]
    | error fault =>
      have exit := program.exitCode_of_error answer (.inl rfl)
      refine ⟨?_, fun others asks' => ?_, ?_⟩
      · rw [exit]
        exact ⟨fun zero => absurd zero Nat.one_ne_zero, fun ⟨_, same⟩ => by cases same⟩
      · rw [asks'.run_eq, exit, program.exitCode_of_error answer (.inr rfl)]
      · rw [exit]
        exact fun zero => absurd zero Nat.one_ne_zero

/-- A product is shown in all modes; a no-break space is no equation to a service, and a foreign
character to the program. -/
theorem front_ends_agree_of_product :
    (Program.standard.Asks ["2*-3"] .value {} "2*-3" ∧ solve {} "2*-3" = .ok (-6) ∧
      ofQuery {} (some "2*-3") = .solution "2*-3" (-6) ∧ (run ["2*-3"]).exitCode = 0 ∧
      (run ["--json", "2*-3"]).exitCode = 0 ∧ (run ["--debug-parser", "2*-3"]).exitCode = 0) ∧
    (Program.standard.Asks ["\u00a0"] .value {} "\u00a0" ∧
      solve {} "\u00a0" = .error (.scan (.unexpectedCharacter '\u00a0' ⟨0, 2⟩)) ∧
      ofQuery {} (some "\u00a0") =
        .failure 400 "Missing or invalid 'equation' parameter." ∧
      (run ["--json", "\u00a0"]).exitCode = (run ["\u00a0"]).exitCode) := by
  have solved : solve {} "2*-3" = .ok (-6) := by decide +kernel
  have failed : solve {} "\u00a0" = .error (.scan (.unexpectedCharacter '\u00a0' ⟨0, 2⟩)) := by
    decide +kernel
  have asks : Program.standard.Asks ["2*-3"] .value {} "2*-3" :=
    ⟨{ equation := "2*-3" }, by decide +kernel, rfl, rfl, rfl⟩
  have asks' : Program.standard.Asks ["\u00a0"] .value {} "\u00a0" :=
    ⟨{ equation := "\u00a0" }, by decide +kernel, rfl, rfl, rfl⟩
  obtain ⟨-, answers, -, agree⟩ := front_ends_agree .standard {} "2*-3"
  obtain ⟨-, -, fails, agree'⟩ := front_ends_agree .standard {} "\u00a0"
  obtain ⟨modes, exits, json, all⟩ := agree _ asks
  obtain ⟨modes', -, json', -⟩ := agree' _ asks'
  have exit := exits.mpr ⟨_, solved⟩
  have takes := Program.takesFlags_standard
  refine ⟨⟨asks, solved, answers _ solved, exit, ?_, ?_⟩, asks', failed, ?_, ?_⟩
  · exact (json _ (modes takes .json .json rfl)).trans exit
  · exact all exit _ _ (modes takes .tree .debugParser rfl)
  · rw [fails _ failed, if_pos (by decide +kernel)]
  · exact json' _ (modes' takes .json .json rfl)

end Calculator.CommandLine
