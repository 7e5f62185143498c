import Calculator.Proofs.Expr.Spacing
import Calculator.Proofs.Token.Case

/-! # Letter case in equations

An equation comes to the same in any mixture of small letters and capitals. Its words, its tree and
its faults keep the letters it is written with, and nothing but the look-up of a function reads
them, which does not tell the cases apart. So it comes to the same value, or to a fault that says
the same of the same place and only quotes a name or a character as it was written.
-/

namespace Calculator

open Relabeling

variable {limits : Limits} {equation recased : String}

/-- A fault in the value of an expression after a change of letters. -/
def EvalFault.relabel (change : Relabeling) : EvalFault → EvalFault
  | divisionByZero => divisionByZero
  | nonFinite value => nonFinite value
  | unknownFunction name => unknownFunction (name.map change.letter)
  | tooDeep maxHeight => tooDeep maxHeight

/-- Why an equation has no answer, after a change. -/
def Fault.relabel (change : Relabeling) : Fault → Fault
  | scan fault => scan (fault.relabel change)
  | parse fault => parse (fault.relabel change)
  | eval fault => eval (fault.relabel change)

/-- A function is found under its name in small letters as under its name. -/
theorem Builtin.ofName?_lower (name : String) :
    ofName? (name.map lowercase.letter) = ofName? name := by
  have twice : Char.toLower ∘ Char.toLower = Char.toLower :=
    funext Char.toLower_toLower_eq_toLower
  change ofLowerName? ((name.map Char.toLower).map Char.toLower) = ofLowerName? _
  rw [String.map_map, twice]

theorem BinaryOp.apply_lower (op : BinaryOp) (lhs rhs : Float) :
    (op.apply lhs rhs).mapError (EvalFault.relabel lowercase) = op.apply lhs rhs := by
  cases op with
  | div =>
    unfold apply
    dsimp only
    split <;> rfl
  | _ => rfl

namespace Expr

/-- Names in small letters change no value. -/
theorem value_lower (tree : Expr) (maxHeight depth : Nat) :
    (tree.relabel lowercase).value maxHeight depth =
      (tree.value maxHeight depth).mapError (EvalFault.relabel lowercase) := by
  induction tree generalizing depth with
  | literal number =>
    rw [relabel, value]
    split <;> rfl
  | binary op lhs rhs ihLhs ihRhs =>
    rw [relabel, value, value, ihLhs, ihRhs]
    split
    · rfl
    · cases lhs.value maxHeight (depth + 1) with
      | error => rfl
      | ok left =>
        cases rhs.value maxHeight (depth + 1) with
        | error => rfl
        | ok right => exact (op.apply_lower left right).symm
  | negate operand ih =>
    rw [relabel, value, value, ih]
    split
    · rfl
    · cases operand.value maxHeight (depth + 1) <;> rfl
  | call function argument ih =>
    rw [relabel, value, value, ih, Builtin.ofName?_lower]
    split
    · rfl
    · cases Builtin.ofName? function with
      | none => rfl
      | some builtin => cases argument.value maxHeight (depth + 1) <;> rfl

theorem evaluate_lower (limits : Limits) (tree : Expr) :
    (tree.relabel lowercase).evaluate limits =
      (tree.evaluate limits).mapError (EvalFault.relabel lowercase) := by
  rw [evaluate, evaluate, value_lower]
  cases tree.value limits.maxHeight 0 with
  | error => rfl
  | ok value =>
    dsimp only [Except.mapError]
    split <;> rfl

end Expr

/-- An equation in small letters has the tree, or the fault, in small letters. -/
theorem parseEquation_toLower (limits : Limits) (equation : String) :
    parseEquation limits equation.toLower =
      ((parseEquation limits equation).map (Expr.relabel lowercase)).mapError
        (Fault.relabel lowercase) := by
  rw [parseEquation, parseEquation, tokenize_toLower]
  cases tokenize limits equation with
  | error => rfl
  | ok tokens =>
    dsimp only [Except.map, Except.mapError]
    rw [parse_relabel]
    cases parse limits tokens <;> rfl

/-- An equation in small letters comes to the same value, or to the fault in small letters. -/
theorem solve_toLower (limits : Limits) (equation : String) :
    solve limits equation.toLower = (solve limits equation).mapError (Fault.relabel lowercase) := by
  rw [solve, solve, parseEquation_toLower]
  cases parseEquation limits equation with
  | error => rfl
  | ok tree =>
    dsimp only [Except.map, Except.mapError]
    rw [Expr.evaluate_lower]
    cases tree.evaluate limits <;> rfl

theorem toLower_empty : "".toLower = "" := by
  rw [← String.toList_inj, String.toLower, String.toList_map]
  rfl

theorem toLower_toString (c : Char) : c.toLower.toString = c.toString.toLower := by
  rw [← String.toList_inj, String.toLower, String.toList_map]
  exact (String.toList_singleton _).trans
    (congrArg (List.map Char.toLower) (String.toList_singleton c)).symm

theorem append_nothing {text : String} : text = text ++ "" ++ "" :=
  (String.append_empty.trans String.append_empty).symm

theorem append_named {first before name second last : String} :
    first ++ (before ++ name) ++ second ++ last = first ++ before ++ name ++ (second ++ last) := by
  simp only [String.append_assoc]

theorem append_framed {first before name behind second last : String} :
    first ++ (before ++ name ++ behind) ++ second ++ last =
      first ++ before ++ name ++ (behind ++ second ++ last) := by
  simp only [String.append_assoc]

namespace Lexeme

/-- The name that a lexeme is, if it is one. -/
def name : Lexeme → String
  | function name => name
  | _ => ""

/-- The text of a lexeme that is no name. -/
def plain : Lexeme → String
  | function _ => ""
  | lexeme => lexeme.text

/-- What stands around the name of a lexeme where messages name it. -/
def frame : Lexeme → String × String
  | function _ => ("function '", "'")
  | lexeme => (lexeme.description, "")

theorem text_eq (lexeme : Lexeme) : lexeme.text = lexeme.plain ++ lexeme.name := by
  cases lexeme with
  | function name => exact String.empty_append.symm
  | _ => exact String.append_empty.symm

theorem description_eq (lexeme : Lexeme) :
    lexeme.description = lexeme.frame.1 ++ lexeme.name ++ lexeme.frame.2 := by
  cases lexeme with
  | function name => rfl
  | _ => exact (String.append_empty.trans String.append_empty).symm

theorem name_relabel (lexeme : Lexeme) : (lexeme.relabel lowercase).name = lexeme.name.toLower := by
  cases lexeme with
  | function name => rfl
  | _ => exact toLower_empty.symm

theorem plain_relabel (lexeme : Lexeme) : (lexeme.relabel lowercase).plain = lexeme.plain := by
  cases lexeme <;> rfl

theorem frame_relabel (lexeme : Lexeme) : (lexeme.relabel lowercase).frame = lexeme.frame := by
  cases lexeme <;> rfl

end Lexeme

namespace ScanFault

/-- The name or the character that a message quotes as it was written. -/
def quoted : ScanFault → String
  | unexpectedCharacter character _ => character.toString
  | missingOperator _ after _ => after.name
  | _ => ""

/-- What a message says before and behind the name or the character. -/
def frame : ScanFault → String × String
  | unexpectedCharacter _ span => ("unexpected character '", s!"' at position {span.start}")
  | missingOperator before after span =>
    (s!"missing operator between '{before.text}' and '{after.plain}",
      s!"' at position {span.start}")
  | fault => (fault.message, "")

theorem message_eq (fault : ScanFault) :
    fault.message = fault.frame.1 ++ fault.quoted ++ fault.frame.2 := by
  cases fault with
  | unexpectedCharacter =>
    unfold message frame quoted
    dsimp only
    rw [String.append_assoc]
    rfl
  | missingOperator before after =>
    unfold message frame quoted
    dsimp only
    rw [after.text_eq]
    exact append_named
  | _ =>
    unfold frame quoted
    exact append_nothing

theorem frame_relabel (fault : ScanFault) : (fault.relabel lowercase).frame = fault.frame := by
  cases fault with
  | inputTooLong => rfl
  | unexpectedCharacter =>
    rw [relabel, place_lower]
    rfl
  | malformedNumber | consecutiveOperators => rw [relabel, place_lower]
  | missingOperator before after =>
    rw [relabel, place_lower]
    unfold frame
    dsimp only
    rw [after.plain_relabel]

theorem quoted_relabel (fault : ScanFault) :
    (fault.relabel lowercase).quoted = fault.quoted.toLower := by
  cases fault with
  | unexpectedCharacter c => exact toLower_toString c
  | missingOperator before after => exact after.name_relabel
  | _ => exact toLower_empty.symm

end ScanFault

namespace ParseFault

/-- The name that a message quotes as it was written. -/
def quoted : ParseFault → String
  | unexpectedToken _ found _ | trailingInput found _ => found.name
  | missingParenthesis function _ => function
  | _ => ""

/-- What a message says before and behind the name. -/
def frame : ParseFault → String × String
  | unexpectedToken expected found span =>
    (s!"expected {expected.description}, found {found.frame.1}",
      s!"{found.frame.2} at position {span.start}")
  | missingParenthesis _ span =>
    ("function '", s!"' must be followed by '(' at position {span.start}")
  | trailingInput found span =>
    (s!"trailing input: unexpected {found.frame.1}", s!"{found.frame.2} at position {span.start}")
  | fault => (fault.message, "")

theorem message_eq (fault : ParseFault) :
    fault.message = fault.frame.1 ++ fault.quoted ++ fault.frame.2 := by
  cases fault with
  | unexpectedToken expected found | trailingInput found =>
    unfold message frame quoted
    dsimp only
    rw [found.description_eq]
    exact append_framed
  | missingParenthesis =>
    unfold message frame quoted
    dsimp only
    rw [String.append_assoc]
    rfl
  | _ =>
    unfold frame quoted
    exact append_nothing

theorem frame_relabel (fault : ParseFault) : (fault.relabel lowercase).frame = fault.frame := by
  cases fault with
  | unexpectedToken expected found | trailingInput found =>
    rw [relabel, place_lower]
    unfold frame
    dsimp only
    rw [found.frame_relabel]
  | missingParenthesis =>
    rw [relabel, place_lower]
    rfl
  | _ => rw [relabel, place_lower]

theorem quoted_relabel (fault : ParseFault) :
    (fault.relabel lowercase).quoted = fault.quoted.toLower := by
  cases fault with
  | unexpectedToken expected found => exact found.name_relabel
  | missingParenthesis => rfl
  | trailingInput found => exact found.name_relabel
  | _ => exact toLower_empty.symm

end ParseFault

namespace EvalFault

/-- The name that a message quotes as it was written. -/
def quoted : EvalFault → String
  | unknownFunction name => name
  | _ => ""

/-- What a message says before and behind the name. -/
def frame : EvalFault → String × String
  | unknownFunction _ => ("unknown function '", "'")
  | fault => (fault.message, "")

theorem message_eq (fault : EvalFault) :
    fault.message = fault.frame.1 ++ fault.quoted ++ fault.frame.2 := by
  cases fault with
  | unknownFunction => rfl
  | _ => exact append_nothing

theorem quoted_relabel (fault : EvalFault) :
    (fault.relabel lowercase).quoted = fault.quoted.toLower := by
  cases fault with
  | unknownFunction => rfl
  | _ => exact toLower_empty.symm

end EvalFault

namespace Fault

/-- The name or the character that a message quotes as it was written, empty if it quotes none. -/
def quoted : Fault → String
  | scan fault => fault.quoted
  | parse fault => fault.quoted
  | eval fault => fault.quoted

/-- What a message says before and behind what it quotes. -/
def frame : Fault → String × String
  | scan fault => fault.frame
  | parse fault => fault.frame
  | eval fault => fault.frame

/-- A message is what it says before and behind what it quotes. -/
theorem message_eq (fault : Fault) :
    fault.message = fault.frame.1 ++ fault.quoted ++ fault.frame.2 := by
  rcases fault with fault | fault | fault
  · exact fault.message_eq
  · exact fault.message_eq
  · exact fault.message_eq

/-- Only what is quoted is in other letters. -/
theorem frame_relabel (fault : Fault) : (fault.relabel lowercase).frame = fault.frame := by
  rcases fault with fault | fault | fault
  · exact fault.frame_relabel
  · exact fault.frame_relabel
  · cases fault <;> rfl

theorem quoted_relabel (fault : Fault) :
    (fault.relabel lowercase).quoted = fault.quoted.toLower := by
  rcases fault with fault | fault | fault
  · exact fault.quoted_relabel
  · exact fault.quoted_relabel
  · exact fault.quoted_relabel

theorem code_relabel (fault : Fault) : (fault.relabel lowercase).code = fault.code := by
  rcases fault with fault | fault | fault <;> cases fault <;> rfl

theorem help?_relabel (fault : Fault) : (fault.relabel lowercase).help? = fault.help? := by
  rcases fault with fault | fault | fault <;> cases fault <;> rfl

theorem labels_relabel (fault : Fault) : (fault.relabel lowercase).labels = fault.labels := by
  rcases fault with fault | fault | fault <;> cases fault <;> rfl

/-- A fault that says the same as another one, but for the letter case of what it quotes. -/
structure Recased (fault recased : Fault) : Prop where
  /-- It is the same fault if all letters are small. -/
  kind : recased.relabel lowercase = fault.relabel lowercase
  code : recased.code = fault.code
  help : recased.help? = fault.help?
  labels : recased.labels = fault.labels
  /-- The messages are the same before and behind what they quote. -/
  message : ∃ before behind, fault.message = before ++ fault.quoted ++ behind ∧
    recased.message = before ++ recased.quoted ++ behind
  /-- They quote the same in any mixture of cases. -/
  quoted : recased.quoted.toLower = fault.quoted.toLower

theorem recased_of_kind {fault recased : Fault}
    (kind : recased.relabel lowercase = fault.relabel lowercase) : fault.Recased recased := by
  have frames : recased.frame = fault.frame := by
    rw [← recased.frame_relabel, kind, frame_relabel]
  refine ⟨kind, ?_, ?_, ?_, ⟨fault.frame.1, fault.frame.2, fault.message_eq, ?_⟩, ?_⟩
  · rw [← recased.code_relabel, kind, code_relabel]
  · rw [← recased.help?_relabel, kind, help?_relabel]
  · rw [← recased.labels_relabel, kind, labels_relabel]
  · rw [recased.message_eq, frames]
  · rw [← recased.quoted_relabel, kind, quoted_relabel]

end Fault

/-- Equations that are equal up to the case of their letters have trees that differ only in the case
of the names they call, and come to the same: a value with all its bits, or faults that differ only
in the case of what they quote. -/
theorem solve_recased (alike : recased.toLower = equation.toLower) (limits : Limits) :
    ((∃ tree tree', parseEquation limits equation = .ok tree ∧
        parseEquation limits recased = .ok tree' ∧
        tree'.relabel lowercase = tree.relabel lowercase) ∨
      ∃ fault fault', parseEquation limits equation = .error fault ∧
        parseEquation limits recased = .error fault' ∧ fault.Recased fault') ∧
    ((∃ value, solve limits equation = .ok value ∧ solve limits recased = .ok value) ∨
      ∃ fault fault', solve limits equation = .error fault ∧
        solve limits recased = .error fault' ∧ fault.Recased fault') := by
  have parsed := congrArg (parseEquation limits) alike
  have solved := congrArg (solve limits) alike
  rw [parseEquation_toLower, parseEquation_toLower] at parsed
  rw [solve_toLower, solve_toLower] at solved
  constructor
  · rcases map_mapError_cases parsed with
      ⟨fault, fault', failed, failed', kind⟩ | ⟨tree, tree', read, read', same⟩
    · exact .inr ⟨fault, fault', failed, failed', Fault.recased_of_kind kind⟩
    · exact .inl ⟨tree, tree', read, read', same⟩
  · rcases mapError_cases solved with
      ⟨fault, fault', failed, failed', kind⟩ | ⟨value, first, second⟩
    · exact .inr ⟨fault, fault', failed, failed', Fault.recased_of_kind kind⟩
    · exact .inl ⟨value, first, second⟩

/-- A function is found in capitals as in small letters; one that does not exist is reported alike,
and quoted as it was written. -/
theorem solve_recased_of_unknown :
    ("SQRT(16)".toLower = "sqrt(16)".toLower ∧ solve {} "sqrt(16)" = .ok 4 ∧
      solve {} "SQRT(16)" = .ok 4) ∧
    "1+aBC(2)".toLower = "1+Abc(2)".toLower ∧
      solve {} "1+Abc(2)" = .error (.eval (.unknownFunction "Abc")) ∧
      solve {} "1+aBC(2)" = .error (.eval (.unknownFunction "aBC")) ∧
      Fault.Recased (.eval (.unknownFunction "Abc")) (.eval (.unknownFunction "aBC")) := by
  have known : "SQRT(16)".toLower = "sqrt(16)".toLower := by
    rw [← String.toList_inj, String.toLower, String.toLower, String.toList_map, String.toList_map]
    decide
  have alike : "1+aBC(2)".toLower = "1+Abc(2)".toLower := by
    rw [← String.toList_inj, String.toLower, String.toLower, String.toList_map, String.toList_map]
    decide
  have root : solve {} "sqrt(16)" = .ok 4 := by decide +kernel
  have first : solve {} "1+Abc(2)" = .error (.eval (.unknownFunction "Abc")) := by decide +kernel
  have second : solve {} "1+aBC(2)" = .error (.eval (.unknownFunction "aBC")) := by decide +kernel
  refine ⟨⟨known, root, ?_⟩, alike, first, second, ?_⟩
  · obtain ⟨-, ⟨value, solved, solved'⟩ | ⟨fault, fault', failed, -, -⟩⟩ := solve_recased known {}
    · cases root.symm.trans solved
      exact solved'
    · cases root.symm.trans failed
  · obtain ⟨-, ⟨value, solved, -⟩ | ⟨fault, fault', failed, failed', recased⟩⟩ :=
      solve_recased alike {}
    · cases first.symm.trans solved
    · cases first.symm.trans failed
      cases second.symm.trans failed'
      exact recased

end Calculator
