import Calculator.Proofs.Expr.RoundTrip

/-! # Formulas tell trees apart

The words of a formula can be told apart from whatever follows them, and from the words of every
other tree: how they begin settles the root of the tree, up to the parenthesis that a number with a
sign and an operation have in common, and there the word behind the first operand decides. So trees
that are shown alike are the same, to the last bit of their numbers.
-/

namespace Calculator

namespace Expr

open Binary64

variable {tree other operand : Expr} {value : Float} {name : String}
  {rest rest' : List Lexeme}

theorem words_signed (signed : isNegative value = true) :
    (literal value).words = [.symbol .openParen, .number value, .symbol .closeParen] :=
  if_pos signed

theorem words_unsigned (unsigned : isNegative value = false) :
    (literal value).words = [.number value] := by
  rw [words, unsigned]
  rfl

theorem words_joined (unsigned : isNegative value = false) :
    (negate (literal value)).words = [.number (-value)] := by
  rw [words, bare?_eq_some.mpr ⟨rfl, unsigned⟩]

theorem words_negate (other : operand.bare? = none) :
    (negate operand).words = .symbol .minus :: operand.words := by
  rw [words, other]

/-- The ways in which the words of a formula begin. -/
inductive Begins : Expr → List Lexeme → Prop
  | number (value : Float) (unsigned : isNegative value = false) :
    Begins (literal value) [.number value]
  | joined (value : Float) (unsigned : isNegative value = false) :
    Begins (negate (literal value)) [.number (-value)]
  | minus (operand : Expr) (other : operand.bare? = none) :
    Begins (negate operand) (.symbol .minus :: operand.words)
  | signed (value : Float) (signed : isNegative value = true) :
    Begins (literal value) [.symbol .openParen, .number value, .symbol .closeParen]
  | binary (op : BinaryOp) (lhs rhs : Expr) :
    Begins (binary op lhs rhs)
      (.symbol .openParen :: (lhs.words ++ .symbol op.symbol :: rhs.words ++ [.symbol .closeParen]))
  | call (name : String) (argument : Expr) :
    Begins (call name argument)
      (.function name :: .symbol .openParen :: (argument.words ++ [.symbol .closeParen]))

theorem begins (tree : Expr) : tree.Begins tree.words := by
  cases tree with
  | literal value =>
    cases sign : isNegative value with
    | true => exact words_signed sign ▸ .signed value sign
    | false => exact words_unsigned sign ▸ .number value sign
  | binary op lhs rhs => exact .binary op lhs rhs
  | negate operand =>
    cases bare : operand.bare? with
    | none => exact words_negate bare ▸ .minus operand bare
    | some value =>
      obtain ⟨rfl, unsigned⟩ := bare?_eq_some.mp bare
      exact words_joined unsigned ▸ .joined value unsigned
  | call name argument => exact .call name argument

theorem signed_neg (finite : value.isFinite = true) (unsigned : isNegative value = false) :
    isNegative (-value) = true := by
  rw [isNegative_neg (isNaN_of_isFinite finite), unsigned]
  rfl

/-- Words that begin with a number are that number, by itself or joined with a minus sign. -/
theorem of_words_number (finite : tree.IsFinite)
    (same : tree.words ++ rest = .number value :: rest') :
    rest = rest' ∧ (tree = literal value ∧ isNegative value = false ∨
      tree = negate (literal (-value)) ∧ isNegative value = true) := by
  have begins := tree.begins
  generalize tree.words = words at begins same
  cases begins with
  | number other unsigned =>
    cases same
    exact ⟨rfl, .inl ⟨rfl, unsigned⟩⟩
  | joined other unsigned =>
    have finite : other.isFinite = true := finite
    cases same
    rw [neg_neg finite]
    exact ⟨rfl, .inr ⟨rfl, signed_neg finite unsigned⟩⟩
  | minus | signed | binary | call => cases same

theorem of_words_minus (same : tree.words ++ rest = .symbol .minus :: rest') :
    ∃ operand, tree = negate operand ∧ operand.bare? = none ∧ operand.words ++ rest = rest' := by
  have begins := tree.begins
  generalize tree.words = words at begins same
  cases begins with
  | minus operand bare =>
    cases same
    exact ⟨operand, rfl, bare, rfl⟩
  | number | joined | signed | binary | call => cases same

theorem of_words_function (same : tree.words ++ rest = .function name :: rest') :
    ∃ argument, tree = call name argument ∧
      .symbol .openParen :: (argument.words ++ .symbol .closeParen :: rest) = rest' := by
  have begins := tree.begins
  generalize tree.words = words at begins same
  cases begins with
  | call other argument =>
    cases same
    exact ⟨argument, rfl, by simp⟩
  | number | joined | minus | signed | binary => cases same

theorem of_words_openParen (same : tree.words ++ rest = .symbol .openParen :: rest') :
    (∃ value, tree = literal value ∧ isNegative value = true ∧
      .number value :: .symbol .closeParen :: rest = rest') ∨
    ∃ op lhs rhs, tree = binary op lhs rhs ∧
      lhs.words ++ .symbol op.symbol :: (rhs.words ++ .symbol .closeParen :: rest) = rest' := by
  have begins := tree.begins
  generalize tree.words = words at begins same
  cases begins with
  | signed value signed =>
    cases same
    exact .inl ⟨value, rfl, signed, rfl⟩
  | binary op lhs rhs =>
    cases same
    exact .inr ⟨op, lhs, rhs, rfl, by simp⟩
  | number | joined | minus | call => cases same

theorem symbol_ne_closeParen (op : BinaryOp) : op.symbol ≠ .closeParen := by
  cases op <;> decide

/-- A number in parentheses is no operation. -/
theorem number_ne_operation {op : BinaryOp} {lhs : Expr} (finite : lhs.IsFinite) :
    lhs.words ++ .symbol op.symbol :: rest ≠ .number value :: .symbol .closeParen :: rest' := by
  intro same
  obtain ⟨behind, -⟩ := of_words_number finite same
  injection behind with closes
  injection closes with closes
  exact symbol_ne_closeParen op closes

/-- The words of a formula settle its tree, and where they end. -/
theorem words_append_injective (finite : tree.IsFinite) (finite' : other.IsFinite)
    (same : tree.words ++ rest = other.words ++ rest') : tree = other ∧ rest = rest' := by
  induction tree generalizing other rest rest' with
  | literal value =>
    cases sign : isNegative value with
    | false =>
      rw [words_unsigned sign] at same
      obtain ⟨behind, ⟨rfl, -⟩ | ⟨-, signed⟩⟩ := of_words_number finite' same.symm
      · exact ⟨rfl, behind.symm⟩
      · rw [sign] at signed
        cases signed
    | true =>
      rw [words_signed sign] at same
      obtain ⟨value', rfl, -, inside⟩ | ⟨op, lhs, rhs, rfl, inside⟩ :=
        of_words_openParen same.symm
      · cases inside
        exact ⟨rfl, rfl⟩
      · exact (number_ne_operation finite'.1 inside).elim
  | binary op lhs rhs ihLeft ihRight =>
    have whole : .symbol .openParen ::
        (lhs.words ++ .symbol op.symbol :: (rhs.words ++ .symbol .closeParen :: rest)) =
          other.words ++ rest' := by
      rw [← same, words]
      simp
    obtain ⟨value, rfl, -, inside⟩ | ⟨op', lhs', rhs', rfl, inside⟩ := of_words_openParen whole.symm
    · exact (number_ne_operation finite.1 inside.symm).elim
    · obtain ⟨rfl, behind⟩ := ihLeft finite.1 finite'.1 inside.symm
      injection behind with symbols behind
      injection symbols with symbols
      obtain rfl := op'.symbol_injective symbols.symm
      obtain ⟨rfl, closing⟩ := ihRight finite.2 finite'.2 behind
      injection closing with _ behind
      exact ⟨rfl, behind⟩
  | negate operand ih =>
    cases bare : operand.bare? with
    | none =>
      rw [words_negate bare] at same
      obtain ⟨operand', rfl, -, inside⟩ := of_words_minus same.symm
      have finite' : operand'.IsFinite := finite'
      obtain ⟨rfl, behind⟩ := ih finite finite' inside.symm
      exact ⟨rfl, behind⟩
    | some value =>
      obtain ⟨rfl, unsigned⟩ := bare?_eq_some.mp bare
      have finite : value.isFinite = true := finite
      rw [words_joined unsigned] at same
      obtain ⟨behind, ⟨-, unsigned'⟩ | ⟨rfl, -⟩⟩ := of_words_number finite' same.symm
      · rw [signed_neg finite unsigned] at unsigned'
        cases unsigned'
      · rw [neg_neg finite]
        exact ⟨rfl, behind.symm⟩
  | call name argument ih =>
    have whole : .function name :: .symbol .openParen ::
        (argument.words ++ .symbol .closeParen :: rest) = other.words ++ rest' := by
      rw [← same, words]
      simp
    obtain ⟨argument', rfl, inside⟩ := of_words_function whole.symm
    have finite' : argument'.IsFinite := finite'
    injection inside with _ inside
    obtain ⟨rfl, closing⟩ := ih finite finite' inside.symm
    injection closing with _ behind
    exact ⟨rfl, behind⟩

/-- Trees with the same text are the same. -/
theorem eq_of_text_eq (finite : tree.IsFinite) (named : tree.IsNamed) (finite' : other.IsFinite)
    (named' : other.IsNamed) (same : tree.text = other.text) : tree = other := by
  have worded := Scanner.worded_formula finite named
  rw [String.ofList_injective same] at worded
  have alike : tree.words ++ [] = other.words ++ [] := by
    rw [worded.unique (Scanner.worded_formula finite' named')]
  exact (words_append_injective finite finite' alike).1

end Expr

/-- Whether an entry of a journal says what something was parsed as. -/
def Entry.TellsTree (entry : Entry) : Prop := ∃ rest, entry.message = "parsed " ++ rest

variable {functions : Bool} {previous : Option Lexeme} {lexeme : Lexeme} {slice rest text : List Char}
  {words : List Lexeme} {limits : Limits} {equation : String} {tree : Expr} {entry : Entry}

theorem Lexeme.Munches.quote_not_mem (munches : lexeme.Munches previous slice rest) :
    '"' ∉ slice := by
  intro member
  cases lexeme with
  | symbol sign =>
    obtain ⟨rfl, -⟩ := munches
    cases sign <;> exact absurd member (by decide)
  | function name =>
    obtain ⟨rfl, ⟨-, letters⟩, -⟩ := munches
    exact absurd (letters _ member) (by decide)
  | number value =>
    obtain ⟨-, numeral, literal, ⟨rfl, -⟩ | ⟨-, rfl, -⟩⟩ := munches
    all_goals
      have starts : Numeral.isStart '"' = true :=
        Numeral.isStart_of_mem_chars literal '"' (by simpa using member)
      exact absurd starts (by decide)

/-- What is made up of words has no quotes. -/
theorem Scanner.Worded.quote_not_mem (worded : Worded functions previous text words) :
    '"' ∉ text := by
  induction worded with
  | done space => exact fun member => absurd (space _ member) (by decide)
  | word space munches _ _ ih =>
    simp only [List.mem_append, not_or]
    exact ⟨⟨fun member => absurd (space _ member) (by decide), munches.quote_not_mem⟩, ih⟩

/-- The text behind the last of some marks is settled. -/
theorem eq_of_append_mark {α : Type} {mark : α} {front front' behind behind' : List α}
    (none : mark ∉ behind) (none' : mark ∉ behind')
    (same : front ++ mark :: behind = front' ++ mark :: behind') : behind = behind' := by
  rcases append_cons_cases same with ⟨-, -, rfl⟩ | ⟨middle, -, rfl⟩ | ⟨middle, -, rfl⟩
  · rfl
  · exact (none (by simp)).elim
  · exact (none' (by simp)).elim

theorem Entry.not_tellsTree {source : Source} {start rest : String}
    (other : start.toList.head?.any (· ≠ 'p') = true) : ¬ TellsTree ⟨source, start ++ rest⟩ := by
  rintro ⟨rest', same⟩
  have letters := congrArg String.toList same
  rw [String.toList_append, String.toList_append] at letters
  cases begins : start.toList with
  | nil =>
    rw [begins] at other
    cases other
  | cons c more =>
    rw [begins] at letters other
    exact of_decide_eq_true other (List.cons.inj letters).1

namespace Journal

/-- The entry that the parser makes of a tree. -/
def parsed (tree : Expr) : Entry := ⟨.parser, "parsed " ++ tree.text⟩

/-- The entry that sums up how an equation was parsed. -/
def parsedAs (equation : String) (tree : Expr) : Entry :=
  ⟨.solver, "parsed " ++ (Text.shown equation ++ (" as " ++ tree.text))⟩

theorem not_tellsTree_of_ofItems (items : List Item) :
    ∀ entry ∈ ofItems items, ¬ entry.TellsTree := by
  induction items with
  | nil => exact List.forall_mem_nil _
  | cons item items ih =>
    cases item with
    | error fault => exact List.forall_mem_nil _
    | ok token =>
      refine List.forall_mem_cons.mpr ⟨?_, ih⟩
      simp only [String.append_assoc]
      exact Entry.not_tellsTree (by decide)

theorem not_tellsTree_of_ofScan (limits : Limits) (equation : String) :
    ∀ entry ∈ ofScan limits equation, ¬ entry.TellsTree := by
  unfold ofScan
  split
  · exact List.forall_mem_nil _
  · exact not_tellsTree_of_ofItems _

theorem not_tellsTree_of_ofValue (limits : Limits) (equation : String) (tree : Expr) :
    ∀ entry ∈ ofValue limits equation tree, ¬ entry.TellsTree := by
  unfold ofValue
  split
  · exact List.forall_mem_nil _
  · refine List.forall_mem_cons.mpr ⟨Entry.not_tellsTree (by decide), ?_⟩
    split
    · refine List.forall_mem_singleton.mpr ?_
      simp only [String.append_assoc]
      exact Entry.not_tellsTree (by decide)
    · exact List.forall_mem_nil _

/-- Two entries of a journal tell the tree that an equation is parsed as. -/
theorem tellsTree_cases (accepted : parseEquation limits equation = .ok tree)
    (member : entry ∈ journal limits equation) (tells : entry.TellsTree) :
    entry = parsed tree ∨ entry = parsedAs equation tree := by
  obtain ⟨tokens, tokenized, read⟩ := parseEquation_eq_ok_iff.mp accepted
  unfold journal at member
  rw [tokenized] at member
  dsimp only at member
  unfold ofTokens at member
  rw [read] at member
  simp only [List.mem_append, List.mem_cons] at member
  rcases member with before | rfl | rfl | rfl | behind
  · exact (not_tellsTree_of_ofScan _ _ _ before tells).elim
  · simp only [String.append_assoc] at tells
    exact (Entry.not_tellsTree (by decide) tells).elim
  · exact .inl rfl
  · right
    simp only [parsedAs, String.append_assoc]
    rfl
  · exact (not_tellsTree_of_ofValue _ _ _ _ behind tells).elim

end Journal

theorem Expr.quote_not_mem_text (finite : tree.IsFinite) (named : tree.IsNamed) :
    '"' ∉ tree.text.toList := by
  rw [text, String.toList_ofList]
  exact (Scanner.worded_formula finite named).quote_not_mem

/-- What stands behind the quoted equation tells the tree. -/
theorem Journal.text_eq_of_parsedAs {equation' : String} {other : Expr} (finite : tree.IsFinite)
    (named : tree.IsNamed) (finite' : other.IsFinite) (named' : other.IsNamed)
    (same : parsedAs equation tree = parsedAs equation' other) : tree.text = other.text := by
  have noQuote {tree : Expr} (finite : tree.IsFinite) (named : tree.IsNamed) :
      '"' ∉ " as ".toList ++ tree.text.toList := by
    rw [List.mem_append, not_or]
    exact ⟨by decide, Expr.quote_not_mem_text finite named⟩
  have letters := congrArg String.toList ((String.append_right_inj _).mp (Entry.mk.inj same).2)
  simp only [Text.shown, String.toList_append, String.toList_ofList, List.append_assoc,
    List.singleton_append] at letters
  have behind := eq_of_append_mark (noQuote finite named) (noQuote finite' named') letters
  exact String.toList_injective (List.append_cancel_left behind)

/-- Two trees of finite numbers and named functions that have the same text are the same tree, with
all the bits of its numbers. So an entry of two journals that tells what was parsed is not about two
different trees. -/
theorem text_tells_trees_apart :
    (∀ tree other : Expr, tree.IsFinite → tree.IsNamed → other.IsFinite → other.IsNamed →
      tree.text = other.text → tree = other) ∧
    ∀ (limits limits' : Limits) (equation equation' : String) (tree other : Expr) (entry : Entry),
      parseEquation limits equation = .ok tree → parseEquation limits' equation' = .ok other →
      tree.IsFinite → other.IsFinite → entry ∈ journal limits equation →
      entry ∈ journal limits' equation' → entry.TellsTree → tree = other := by
  refine ⟨fun tree other => Expr.eq_of_text_eq, ?_⟩
  intro limits limits' equation equation' tree other entry accepted accepted' finite finite' member
    member' tells
  have named := isNamed_of_parseEquation accepted
  have named' := isNamed_of_parseEquation accepted'
  apply Expr.eq_of_text_eq finite named finite' named'
  rcases Journal.tellsTree_cases accepted member tells with rfl | rfl
  · rcases Journal.tellsTree_cases accepted' member' tells with same | same
    · exact (String.append_right_inj _).mp (Entry.mk.inj same).2
    · cases same
  · rcases Journal.tellsTree_cases accepted' member' tells with same | same
    · cases same
    · exact Journal.text_eq_of_parsedAs finite named finite' named' same

/-- The negation of a number and of a sum of numbers that comes to it, and a quotient that is spelled
in two ways. -/
theorem text_tells_trees_apart_of_quotient :
    let negation : Expr := .negate (.literal 5)
    let other : Expr := .negate (.literal (2 + 3))
    let quotient : Expr := .binary .div (.literal 1) (.call "cos" (.literal (-2)))
    let entry : Entry := ⟨.parser, "parsed (1 / cos((-2)))"⟩
    (negation.IsFinite ∧ negation.IsNamed ∧ other.IsFinite ∧ other.IsNamed ∧
      negation.text = other.text ∧ negation = other) ∧
    ∃ spaced, parseEquation {} "1/cos(-2)" = .ok quotient ∧
      parseEquation {} "(1)/ cos (-2)" = .ok spaced ∧ quotient.IsFinite ∧ spaced.IsFinite ∧
      entry ∈ journal {} "1/cos(-2)" ∧ entry ∈ journal {} "(1)/ cos (-2)" ∧ entry.TellsTree ∧
      quotient = spaced := by
  intro negation other quotient entry
  obtain ⟨trees, journals⟩ := text_tells_trees_apart
  have finite : negation.IsFinite ∧ other.IsFinite ∧ quotient.IsFinite := by decide +kernel
  have same : negation.text = other.text := by decide +kernel
  have accepted : parseEquation {} "1/cos(-2)" = .ok quotient :=
    eq_ok_of_toOption (by decide +kernel)
  have accepted' : parseEquation {} "(1)/ cos (-2)" =
      .ok (.binary .div (.literal 1) (.call "cos" (.literal (-(1 + 1))))) :=
    eq_ok_of_toOption (by decide +kernel)
  have finite' : (Expr.binary .div (.literal 1) (.call "cos" (.literal (-(1 + 1))))).IsFinite := by
    decide +kernel
  have member : entry ∈ journal {} "1/cos(-2)" := by decide +kernel
  have member' : entry ∈ journal {} "(1)/ cos (-2)" := by decide +kernel
  have tells : entry.TellsTree := ⟨"(1 / cos((-2)))", by decide⟩
  exact ⟨⟨finite.1, trivial, finite.2.1, trivial, same,
    trees _ _ finite.1 trivial finite.2.1 trivial same⟩, _, accepted, accepted', finite.2.2, finite',
    member, member', tells,
    journals _ _ _ _ _ _ _ accepted accepted' finite.2.2 finite' member member' tells⟩

end Calculator
