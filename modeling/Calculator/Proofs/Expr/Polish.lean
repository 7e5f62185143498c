import Calculator.CommandLine
import Calculator.Proofs.Expr.Denotes
import Calculator.Proofs.Expr.Words

/-! # Reading the reverse Polish form

A reverse Polish form is read from left to right with a stack: a number is pushed, and every other
word pops its operands and pushes what it makes of them. Whatever lies on the stack before, the
words of a tree leave one more entry on it. On a stack of trees that is the tree itself, and on a
stack of numbers its value.
-/

namespace Calculator

/-- What a word of a reverse Polish form stands for. -/
inductive Command where
  | push (value : Float)
  | apply (op : BinaryOp)
  | negate
  | call (function : String)
deriving DecidableEq, Repr

namespace Command

/-- The number that an unsigned literal denotes, if a text is one. -/
def unsigned? (text : List Char) : Option Float :=
  match Numeral.read text with
  | .ok (numeral, []) => some numeral.value
  | _ => none

/-- The number that a text denotes in decimal, with a minus sign before it if it has one. -/
def number? : List Char → Option Float
  | '-' :: digits => (unsigned? digits).map (- ·)
  | digits => unsigned? digits

/-- What a word stands for: a number, an operator, a negation or else the call of a function. -/
def ofWord (word : String) : Command :=
  match number? word.toList, word with
  | some value, _ => push value
  | none, "+" => apply .add
  | none, "-" => apply .sub
  | none, "*" => apply .mul
  | none, "/" => apply .div
  | none, "^" => apply .pow
  | none, "neg" => negate
  | none, function => call function

/-- What the words of a text stand for, one between every two spaces. -/
def ofText (text : String) : List Command :=
  ((text.split ' ').toList.map (·.copy)).map ofWord

end Command

/-- What commands make of the entries of a stack. -/
structure Semantics (α : Type) where
  literal : Float → α
  binary : BinaryOp → α → α → Option α
  negate : α → α
  call : String → α → Option α

namespace Semantics

variable {α : Type}

/-- A stack of trees: every command puts a node on top of its operands. -/
def trees : Semantics Expr where
  literal := .literal
  binary op lhs rhs := some (.binary op lhs rhs)
  negate := .negate
  call function argument := some (.call function argument)

/-- A stack of numbers: every command is carried out. -/
def numbers : Semantics Float where
  literal value := value
  binary op lhs rhs := (op.apply lhs rhs).toOption
  negate operand := -operand
  call function argument := (Builtin.ofName? function).map (·.apply argument)

/-- A stack after a command, its top first. The right operand lies above the left one. There is no
stack after a command whose operands are missing. -/
def step (on : Semantics α) (stack : List α) (command : Command) : Option (List α) :=
  match command, stack with
  | .push value, stack => some (on.literal value :: stack)
  | .apply op, rhs :: lhs :: stack => (on.binary op lhs rhs).map (· :: stack)
  | .negate, operand :: stack => some (on.negate operand :: stack)
  | .call function, argument :: stack => (on.call function argument).map (· :: stack)
  | _, _ => none

/-- The stack that a reverse Polish form leaves, read on an empty one. -/
def read (on : Semantics α) (text : String) : Option (List α) :=
  (Command.ofText text).foldlM on.step []

/-- The entry that a tree comes to, if it comes to one. -/
def ofTree (on : Semantics α) : Expr → Option α
  | .literal value => some (on.literal value)
  | .binary op lhs rhs => do
    let lhs ← on.ofTree lhs
    let rhs ← on.ofTree rhs
    on.binary op lhs rhs
  | .negate operand => (on.ofTree operand).map on.negate
  | .call function argument => do
    let argument ← on.ofTree argument
    on.call function argument

end Semantics

namespace Expr

/-- What the words of the reverse Polish form of a tree stand for. -/
def commands : Expr → List Command
  | literal value => [.push value]
  | binary op lhs rhs => lhs.commands ++ rhs.commands ++ [.apply op]
  | negate operand => operand.commands ++ [.negate]
  | call function argument => argument.commands ++ [.call function]

/-- Whether all the functions in a tree are known. -/
def IsKnown : Expr → Prop
  | literal _ => True
  | binary _ lhs rhs => lhs.IsKnown ∧ rhs.IsKnown
  | negate operand => operand.IsKnown
  | call function argument => (Builtin.ofName? function).isSome = true ∧ argument.IsKnown

end Expr

variable {α : Type} {tree : Expr} {value : Float} {function : String} {limits : Limits}
  {equation : String}

namespace Semantics

theorem foldlM_word (on : Semantics α) (command : Command) (stack : List α) :
    [command].foldlM on.step stack = on.step stack command :=
  bind_pure _

/-- On any stack, the commands of a tree leave one more entry, the one that the tree comes to. -/
theorem foldlM_commands (on : Semantics α) (tree : Expr) (stack : List α) :
    tree.commands.foldlM on.step stack = (on.ofTree tree).map (· :: stack) := by
  -- For every stack, since the right operand is read above what the left one has left.
  induction tree generalizing stack with
  | literal value => rfl
  | binary op lhs rhs ihLeft ihRight =>
    rw [Expr.commands, List.append_assoc, List.foldlM_append, ihLeft, ofTree]
    cases on.ofTree lhs with
    | none => rfl
    | some x =>
      change (rhs.commands ++ [Command.apply op]).foldlM on.step (x :: stack) =
        (on.ofTree rhs >>= on.binary op x).map (· :: stack)
      rw [List.foldlM_append, ihRight]
      cases on.ofTree rhs with
      | none => rfl
      | some y => exact on.foldlM_word (.apply op) (y :: x :: stack)
  | negate operand ih =>
    rw [Expr.commands, List.foldlM_append, ih, ofTree]
    cases on.ofTree operand with
    | none => rfl
    | some x => exact on.foldlM_word .negate (x :: stack)
  | call function argument ih =>
    rw [Expr.commands, List.foldlM_append, ih, ofTree]
    cases on.ofTree argument with
    | none => rfl
    | some x => exact on.foldlM_word (.call function) (x :: stack)

/-- On a stack of trees, a tree comes to itself. -/
theorem ofTree_trees (tree : Expr) : trees.ofTree tree = some tree := by
  induction tree with
  | literal value => rfl
  | binary op lhs rhs ihLeft ihRight =>
    rw [ofTree, ihLeft, ihRight]
    rfl
  | negate operand ih =>
    rw [ofTree, ih]
    rfl
  | call function argument ih =>
    rw [ofTree, ih]
    rfl

/-- On a stack of numbers, a tree comes to its value, if it has one. -/
theorem ofTree_numbers (tree : Expr) : numbers.ofTree tree = tree.denote.toOption := by
  induction tree with
  | literal value => rfl
  | binary op lhs rhs ihLeft ihRight =>
    rw [ofTree, ihLeft, ihRight, Expr.denote]
    cases lhs.denote with
    | error fault => rfl
    | ok x => cases rhs.denote <;> rfl
  | negate operand ih =>
    rw [ofTree, ih, Expr.denote]
    cases operand.denote <;> rfl
  | call function argument ih =>
    rw [ofTree, ih, Expr.denote]
    change (argument.denote.toOption >>= fun x => (Builtin.ofName? function).map (·.apply x)) = _
    cases Builtin.ofName? function <;> cases argument.denote <;> rfl

end Semantics

theorem isName_of_ofLowerName? {builtin : Builtin}
    (known : Builtin.ofLowerName? function = some builtin) : IsName function := by
  unfold Builtin.ofLowerName? at known
  split at known
  case h_7 => cases known
  all_goals exact ⟨by simp, by simp⟩

/-- The name of a known function is one that a scan reads. -/
theorem isName_of_ofName? (known : (Builtin.ofName? function).isSome = true) : IsName function := by
  obtain ⟨builtin, known⟩ := Option.isSome_iff_exists.mp known
  obtain ⟨nonempty, letters⟩ := isName_of_ofLowerName? known
  rw [String.toList_map] at nonempty letters
  refine ⟨fun empty => nonempty (List.map_eq_nil_iff.mpr empty), fun c member => ?_⟩
  rw [← Char.isAlpha_toLower_eq_isAlpha]
  exact letters _ (List.mem_map_of_mem member)

/-- The text of a finite number is a literal, behind a minus sign if the number has one. -/
theorem exists_numeral_plainText (finite : value.isFinite = true) :
    ∃ numeral : Numeral, numeral.IsLiteral ∧
      ((plainText value).toList = numeral.chars ∧ numeral.value = value ∨
        (plainText value).toList = '-' :: numeral.chars ∧ -numeral.value = value) := by
  rw [plainText, String.toList_ofList]
  cases sign : Binary64.isNegative value with
  | true =>
    obtain ⟨numeral, literal, signed⟩ := Scanner.exists_numeral_signed finite sign
    exact ⟨numeral, literal, .inr signed⟩
  | false =>
    obtain ⟨numeral, literal, unsigned⟩ := Scanner.exists_numeral_unsigned finite sign
    exact ⟨numeral, literal, .inl unsigned⟩

namespace Command

/-- What is read as an unsigned literal is one. -/
theorem unsigned?_eq_some_iff {text : List Char} :
    unsigned? text = some value ↔
      ∃ numeral : Numeral, numeral.IsLiteral ∧ text = numeral.chars ∧ numeral.value = value := by
  unfold unsigned?
  constructor
  · intro success
    split at success
    case h_1 numeral read =>
      obtain ⟨literal, same, -⟩ := Numeral.read_eq_ok_iff.mp read
      rw [List.append_nil] at same
      exact ⟨numeral, literal, same, Option.some.inj success⟩
    · cases success
  · rintro ⟨numeral, literal, rfl, rfl⟩
    have read : Numeral.read numeral.chars = .ok (numeral, []) :=
      Numeral.read_eq_ok_iff.mpr ⟨literal, (List.append_nil _).symm, rfl⟩
    rw [read]

/-- Without a minus sign, a number is an unsigned literal. -/
theorem number?_cons {c : Char} {rest : List Char} (unsigned : c ≠ '-') :
    number? (c :: rest) = unsigned? (c :: rest) := by
  unfold number?
  split
  case h_1 same =>
    cases same
    exact absurd rfl unsigned
  · rfl

/-- A name is no number. -/
theorem number?_of_isName {name : String} (isName : IsName name) : number? name.toList = none := by
  obtain ⟨nonempty, letters⟩ := isName
  obtain ⟨c, rest, same⟩ := List.exists_cons_of_ne_nil nonempty
  rw [same] at letters ⊢
  have letter := letters c (List.mem_cons_self ..)
  have unsigned : c ≠ '-' := by
    rintro rfl
    exact absurd letter (by decide)
  rw [number?_cons unsigned]
  apply Option.eq_none_iff_forall_ne_some.mpr
  intro value success
  obtain ⟨numeral, literal, chars, -⟩ := unsigned?_eq_some_iff.mp success
  have starts : Numeral.isStart c = true :=
    Numeral.isStart_of_mem_chars literal c (chars ▸ List.mem_cons_self ..)
  rw [(Scanner.solid_of_isAlpha letter).2.2] at starts
  cases starts

/-- The text of a finite number stands for the number. -/
theorem number?_plainText (finite : value.isFinite = true) :
    number? (plainText value).toList = some value := by
  obtain ⟨numeral, literal, ⟨chars, rfl⟩ | ⟨chars, rfl⟩⟩ := exists_numeral_plainText finite
  · obtain ⟨c, rest, first⟩ := List.exists_cons_of_ne_nil (Numeral.chars_ne_nil literal)
    have unsigned : c ≠ '-' := by
      rintro rfl
      have starts : Numeral.isStart '-' = true :=
        Numeral.isStart_of_mem_chars literal '-' (first ▸ List.mem_cons_self ..)
      exact absurd starts (by decide)
    rw [chars, first, number?_cons unsigned]
    exact unsigned?_eq_some_iff.mpr ⟨numeral, literal, first.symm, rfl⟩
  · rw [chars, number?, unsigned?_eq_some_iff.mpr ⟨numeral, literal, rfl, rfl⟩]
    rfl

theorem ofWord_plainText (finite : value.isFinite = true) :
    ofWord (plainText value) = push value := by
  unfold ofWord
  rw [number?_plainText finite]

theorem ofWord_char (op : BinaryOp) : ofWord op.char.toString = apply op := by
  cases op <;> decide +kernel

/-- The name of a known function stands for its call. -/
theorem ofWord_of_ofName? (known : (Builtin.ofName? function).isSome = true) :
    ofWord function = call function := by
  have noNumber := number?_of_isName (isName_of_ofName? known)
  unfold ofWord
  rw [noNumber]
  split
  case h_1 number => cases number
  case h_8 => rfl
  all_goals exact absurd known (by decide +kernel)

end Command

namespace Expr

theorem polishWords_ne_nil (tree : Expr) : tree.polishWords ≠ [] := by
  cases tree <;> simp [polishWords]

/-- The words of the reverse Polish form of a tree stand for the commands of the tree. -/
theorem map_ofWord_polishWords (finite : tree.IsFinite) (known : tree.IsKnown) :
    tree.polishWords.map Command.ofWord = tree.commands := by
  induction tree with
  | literal value => exact congrArg (· :: []) (Command.ofWord_plainText finite)
  | binary op lhs rhs ihLeft ihRight =>
    rw [polishWords, List.map_append, List.map_append, ihLeft finite.1 known.1,
      ihRight finite.2 known.2, List.map_singleton, Command.ofWord_char, commands]
  | negate operand ih =>
    have word : Command.ofWord "neg" = .negate := by decide +kernel
    rw [polishWords, List.map_append, ih finite known, List.map_singleton, word, commands]
  | call function argument ih =>
    rw [polishWords, List.map_append, ih finite known.2, List.map_singleton,
      Command.ofWord_of_ofName? known.1, commands]

theorem space_not_mem_plainText (finite : value.isFinite = true) :
    ' ' ∉ (plainText value).toList := by
  obtain ⟨numeral, literal, ⟨chars, -⟩ | ⟨chars, -⟩⟩ := exists_numeral_plainText finite
  all_goals
    rw [chars]
    intro member
    have starts : Numeral.isStart ' ' = true :=
      Numeral.isStart_of_mem_chars literal ' ' (by simpa using member)
    exact absurd starts (by decide)

/-- No word of a reverse Polish form has a space in it. -/
theorem space_not_mem_of_mem_polishWords (finite : tree.IsFinite) (known : tree.IsKnown) :
    ∀ word ∈ tree.polishWords, ' ' ∉ word.toList := by
  induction tree with
  | literal value => exact List.forall_mem_singleton.mpr (space_not_mem_plainText finite)
  | binary op lhs rhs ihLeft ihRight =>
    have operator : ' ' ∉ op.char.toString.toList := by cases op <;> decide
    rw [polishWords, List.forall_mem_append, List.forall_mem_append, List.forall_mem_singleton]
    exact ⟨⟨ihLeft finite.1 known.1, ihRight finite.2 known.2⟩, operator⟩
  | negate operand ih =>
    rw [polishWords, List.forall_mem_append, List.forall_mem_singleton]
    exact ⟨ih finite known, by decide⟩
  | call function argument ih =>
    have name : ' ' ∉ function.toList := by
      intro member
      exact absurd ((isName_of_ofName? known.1).2 ' ' member) (by decide)
    rw [polishWords, List.forall_mem_append, List.forall_mem_singleton]
    exact ⟨ih finite known.2, name⟩

/-- The reverse Polish form of a tree is cut into its words. -/
theorem ofText_polish (finite : tree.IsFinite) (known : tree.IsKnown) :
    Command.ofText tree.polish = tree.commands := by
  have space : " " = String.singleton ' ' := rfl
  rw [Command.ofText, polish, space,
    String.toList_split_intercalate (space_not_mem_of_mem_polishWords finite known),
    if_neg tree.polishWords_ne_nil, map_ofWord_polishWords finite known]

end Expr

/-- The reverse Polish form of a tree leaves one entry, the one that the tree comes to. -/
theorem Semantics.read_polish (on : Semantics α) (finite : tree.IsFinite) (known : tree.IsKnown) :
    on.read tree.polish = (on.ofTree tree).map ([·]) := by
  rw [read, Expr.ofText_polish finite known]
  exact on.foldlM_commands tree []

/-- All functions in a tree that comes to a value are known. -/
theorem Expr.Denotes.isKnown {result : Except EvalFault Float} (denotes : tree.Denotes result)
    (success : result.toOption.isSome = true) : tree.IsKnown := by
  induction denotes with
  | literal => trivial
  | negate _ ih => exact ih rfl
  | sum _ _ ihLeft ihRight | difference _ _ ihLeft ihRight | product _ _ ihLeft ihRight
  | power _ _ ihLeft ihRight | quotient _ _ _ _ ihLeft ihRight => exact ⟨ihLeft rfl, ihRight rfl⟩
  | call known _ ih => exact ⟨Option.isSome_of_mem known, ih rfl⟩
  | _ => cases success

open CommandLine

/-- The reverse Polish form of a tree of finite numbers and known functions is read as the tree, and
carrying it out leads to the value of the tree. Such is the tree of every equation that has a value,
if its numbers are finite, so carrying out the form that is shown of it gives the value that is
shown of it. -/
theorem polish_denotes (limits : Limits) (equation : String) :
    (∀ tree : Expr, tree.IsFinite → tree.IsKnown →
      Semantics.trees.read tree.polish = some [tree] ∧
        Semantics.numbers.read tree.polish = tree.denote.toOption.map ([·])) ∧
    ∀ value, solve limits equation = .ok value →
      ∃ tree, parseEquation limits equation = .ok tree ∧ tree.IsKnown ∧
        (tree.IsFinite →
          Semantics.trees.read tree.polish = some [tree] ∧
            (present .tree limits equation).output = s!"postfix: {tree.polish}\n" ∧
            Semantics.numbers.read tree.polish = some [value] ∧
            (present .value limits equation).output = plainText value ++ "\n") := by
  have reads (tree : Expr) (finite : tree.IsFinite) (known : tree.IsKnown) :
      Semantics.trees.read tree.polish = some [tree] ∧
        Semantics.numbers.read tree.polish = tree.denote.toOption.map ([·]) := by
    rw [Semantics.read_polish _ finite known, Semantics.read_polish _ finite known,
      Semantics.ofTree_trees, Semantics.ofTree_numbers]
    exact ⟨rfl, rfl⟩
  refine ⟨reads, fun value solved => ?_⟩
  obtain ⟨tree, accepted, denotes⟩ := exists_tree_of_solve solved
  refine ⟨tree, accepted, denotes.isKnown rfl, fun finite => ?_⟩
  obtain ⟨read, carried⟩ := reads tree finite (denotes.isKnown rfl)
  rw [denotes.denote_eq] at carried
  refine ⟨read, ?_, carried, ?_⟩
  · rw [present, Program.present, accepted]
  · rw [present, Program.present, solved]

/-- A negated sum with a call in it, read back and carried out. -/
theorem polish_denotes_of_sum :
    let tree : Expr := .negate (.binary .add (.literal 2)
      (.binary .mul (.literal 3) (.call "sqrt" (.literal 16))))
    tree.IsFinite ∧ tree.IsKnown ∧ tree.polish = "2 3 16 sqrt * + neg" ∧
      Semantics.trees.read "2 3 16 sqrt * + neg" = some [tree] ∧
      solve {} "-(2+3*sqrt(16))" = .ok (-14) ∧
      Semantics.numbers.read "2 3 16 sqrt * + neg" = some [-14] := by
  intro tree
  have finite : tree.IsFinite := by decide +kernel
  have known : tree.IsKnown := ⟨trivial, trivial, by decide +kernel, trivial⟩
  have text : tree.polish = "2 3 16 sqrt * + neg" := by decide +kernel
  have solved : solve {} "-(2+3*sqrt(16))" = .ok (-14) := by decide +kernel
  have accepted : parseEquation {} "-(2+3*sqrt(16))" = .ok tree :=
    eq_ok_of_toOption (by decide +kernel)
  obtain ⟨-, reads⟩ := polish_denotes {} "-(2+3*sqrt(16))"
  obtain ⟨other, accepted', -, shown⟩ := reads (-14) solved
  rw [accepted] at accepted'
  cases accepted'
  obtain ⟨read, -, carried, -⟩ := shown finite
  rw [text] at read carried
  exact ⟨finite, known, text, read, solved, carried⟩

end Calculator
