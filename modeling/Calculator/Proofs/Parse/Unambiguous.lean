import Calculator.Proofs.Parse.Sound

/-! # The grammar is unambiguous

The parser reads a sequence of words in one way only. Words of one stratum that start other words
of a stratum therefore use them up, if both end where an expression of some power ends. From this
the place of the last operator of an expression follows, and from that its derivation.
-/

namespace Calculator

/-- Tokens that say some words, all at the start of an equation. -/
def Token.spelling (words : List Lexeme) : List Token := words.map (⟨·, .point 0⟩)

namespace Token

@[simp] theorem lexemes_spelling (words : List Lexeme) : lexemes (spelling words) = words := by
  simp [lexemes, spelling, Function.comp_def]

@[simp] theorem spelling_cons (word : Lexeme) (words : List Lexeme) :
    spelling (word :: words) = ⟨word, .point 0⟩ :: spelling words := rfl

@[simp] theorem spelling_append (first second : List Lexeme) :
    spelling (first ++ second) = spelling first ++ spelling second := List.map_append

end Token

theorem BinaryOp.symbol_injective (op : BinaryOp) {op' : BinaryOp} (same : op.symbol = op'.symbol) :
    op = op' := by
  cases op <;> cases op' <;> first | rfl | cases same

/-- No operator binds its left side more strongly than a power. -/
theorem BinaryOp.leftPower_le (op : BinaryOp) : op.leftPower ≤ BinaryOp.pow.leftPower := by
  cases op <;> decide

namespace Parse

theorem Stops.of_strong {power : Nat} (tokens : List Token)
    (strong : BinaryOp.pow.leftPower < power) : Stops power tokens := by
  cases tokens with
  | nil => trivial
  | cons token rest => exact fun op _ => Nat.lt_of_le_of_lt op.leftPower_le strong

theorem Stops.append {power : Nat} {first second : List Token} (stops : Stops power first)
    (stops' : Stops power second) : Stops power (first ++ second) := by
  cases first with
  | nil => exact stops'
  | cons token rest => exact stops

theorem Stops.spelling_lexemes {power : Nat} {tokens : List Token} (stops : Stops power tokens) :
    Stops power (Token.spelling (Token.lexemes tokens)) := by
  cases tokens with
  | nil => trivial
  | cons token rest => exact stops

end Parse

namespace Grammar

open Parse

variable {stratum stratum' : Stratum} {words words' : List Lexeme} {tree tree' : Expr}

/-- Limits under which a sequence of so many words is read, whatever it spells. -/
def roomy (count : Nat) : Limits := { maxDepth := count, maxHeight := count }

/-- Under roomy limits every derivation is read. -/
theorem Derivation.resumes_roomy (derivation : Derivation stratum words tree) {count : Nat}
    (fits : words.length ≤ count) (finish : Span) :
    Resumes (roomy count) finish stratum (Token.spelling words) tree 0 := by
  have nest := derivation.nest_lt_length
  have height := derivation.height_lt_length
  apply derivation.resumes (Token.lexemes_spelling words)
  · change derivation.nest ≤ count
    omega
  · change tree.height ≤ count
    omega

/-- Under roomy limits a derivation is read as a whole. -/
theorem Derivation.done (derivation : Derivation stratum words tree) {count : Nat}
    (fits : words.length ≤ count) (finish : Span) :
    ∃ last, ∀ power more, power ≤ stratum.bound → Ends stratum words (Token.spelling more) →
      Stops power (Token.spelling more) →
      Run (roomy count) finish (.expression power) 0 (Token.spelling (words ++ more))
        (.done tree last (Token.spelling more)) := by
  obtain ⟨last, done⟩ := (derivation.resumes_roomy fits finish).done
  refine ⟨last, fun power more tight ends stops => ?_⟩
  rw [Token.spelling_append]
  exact done power _ tight (by rwa [Token.lexemes_spelling]) stops

/-- Words that start alike and end where an expression of one power ends are the same words. -/
theorem Derivation.prefix_unique (first : Derivation stratum words tree)
    (second : Derivation stratum' words' tree') {more more' : List Lexeme}
    (same : words ++ more = words' ++ more') (power : Nat) (tight : power ≤ stratum.bound)
    (tight' : power ≤ stratum'.bound) (ends : Ends stratum words (Token.spelling more))
    (ends' : Ends stratum' words' (Token.spelling more'))
    (stops : Stops power (Token.spelling more)) (stops' : Stops power (Token.spelling more')) :
    words = words' ∧ more = more' := by
  obtain ⟨_, read⟩ := first.done (Nat.le_max_left words.length words'.length) (.point 0)
  obtain ⟨_, read'⟩ := second.done (Nat.le_max_right words.length words'.length) (.point 0)
  have run := read power more tight ends stops
  rw [same] at run
  have rests := run.unique (read' power more' tight' ends' stops')
  injection rests with _ _ rests
  have mores : more = more' := by
    rw [← Token.lexemes_spelling more, rests, Token.lexemes_spelling]
  subst mores
  exact ⟨List.append_cancel_right same, rfl⟩

/-- Words of a stratum that start other words of a stratum are all of them. -/
theorem Derivation.nothing_more {more : List Lexeme}
    (whole : Derivation stratum (words ++ more) tree) (start : Derivation stratum' words tree')
    (power : Nat) (tight : power ≤ stratum.bound)
    (tight' : power ≤ stratum'.bound) (ends : Ends stratum' words (Token.spelling more))
    (stops : Stops power (Token.spelling more)) : more = [] := by
  have nothing : Ends stratum (words ++ more) (Token.spelling []) :=
    ⟨trivial, fun caret => absurd caret Bool.false_ne_true⟩
  have same : words ++ more ++ [] = words ++ more := List.append_nil _
  exact (whole.prefix_unique start same power tight tight' nothing ends trivial stops).2.symm

/-- What an operator of some power continues ends where an expression of a stronger power ends. -/
theorem stops_continued {op : BinaryOp} {power : Nat} {more rest : List Lexeme}
    (stops : Stops power (Token.spelling more)) (looser : op.leftPower < power) :
    Stops power (Token.spelling (more ++ .symbol op.symbol :: rest)) := by
  rw [Token.spelling_append, Token.spelling_cons]
  exact stops.append (.of_operator? (Lexeme.operator?_symbol op) looser)

/-- Whether an operator groups to the left, on one stratum and with operands of another. -/
def GroupsLeft (outer inner : Stratum) (op : BinaryOp) : Prop :=
  op ≠ .pow ∧ Stratum.ofOperator op = outer ∧ Stratum.ofPower op.rightPower = inner

theorem groupsLeft_product {op : BinaryOp} (either : op = .mul ∨ op = .div) :
    GroupsLeft .term .unary op := by
  rcases either with rfl | rfl <;> exact ⟨by decide, rfl, rfl⟩

theorem groupsLeft_sum {op : BinaryOp} (either : op = .add ∨ op = .sub) :
    GroupsLeft .expr .term op := by
  rcases either with rfl | rfl <;> exact ⟨by decide, rfl, rfl⟩

section GroupsLeft

variable {outer inner inner' : Stratum} {op op' : BinaryOp} {rest : List Lexeme}

theorem GroupsLeft.strata (groups : GroupsLeft outer inner op) :
    outer = .expr ∧ inner = .term ∨ outer = .term ∧ inner = .unary := by
  obtain ⟨loose, rfl, rfl⟩ := groups
  cases op with
  | add | sub => exact .inl ⟨rfl, rfl⟩
  | mul | div => exact .inr ⟨rfl, rfl⟩
  | pow => exact (loose rfl).elim

/-- The operand on the right of an operator ends at an operator of the same stratum. -/
theorem GroupsLeft.looser (groups : GroupsLeft outer inner op)
    (groups' : GroupsLeft outer inner' op') : op'.leftPower < op.rightPower := by
  obtain ⟨loose, rfl, -⟩ := groups
  obtain ⟨-, level, -⟩ := groups'
  revert loose level
  cases op <;> cases op' <;> decide

/-- An operation starts with an operand. -/
theorem Derivation.starts (groups : GroupsLeft outer inner op)
    (derivation : Derivation outer words tree) :
    ∃ first more lead, words = first ++ more ∧ Nonempty (Derivation inner first lead) ∧
      Stops op.rightPower (Token.spelling more) := by
  induction derivation with
  | term operand | unary operand =>
    rcases groups.strata with ⟨same, rfl⟩ | ⟨same, rfl⟩
    all_goals cases same
    exact ⟨_, [], _, (List.append_nil _).symm, ⟨operand⟩, trivial⟩
  | sum either _ _ ih =>
    obtain ⟨first, more, lead, rfl, starts, stops⟩ := ih groups
    have looser := groups.looser (groupsLeft_sum either)
    exact ⟨first, _, lead, List.append_assoc .., starts, stops_continued stops looser⟩
  | product either _ _ ih =>
    obtain ⟨first, more, lead, rfl, starts, stops⟩ := ih groups
    have looser := groups.looser (groupsLeft_product either)
    exact ⟨first, _, lead, List.append_assoc .., starts, stops_continued stops looser⟩
  | _ => rcases groups.strata with ⟨same, -⟩ | ⟨same, -⟩ <;> cases same

/-- An operand is not continued by an operator of the stratum it is an operand of. -/
theorem Derivation.not_continued (groups : GroupsLeft outer inner op)
    (groups' : GroupsLeft outer inner op')
    (whole : Derivation inner (words ++ .symbol op'.symbol :: rest) tree) {first : List Lexeme}
    {lead : Expr} {more : List Lexeme} (split : words = first ++ more)
    (starts : Derivation inner first lead) (stops : Stops op.rightPower (Token.spelling more)) :
    False := by
  have continued : Stops op.rightPower (Token.spelling (more ++ .symbol op'.symbol :: rest)) :=
    stops_continued stops (groups.looser groups')
  obtain ⟨-, -, rfl⟩ := groups
  have tight : op.rightPower ≤ (Stratum.ofPower op.rightPower).bound :=
    Stratum.le_bound_ofPower (Stratum.rightPower_le op)
  rw [split, List.append_assoc] at whole
  have nothing := whole.nothing_more starts op.rightPower tight tight
    (.of_stops (continued.mono (Nat.le_succ_of_le tight)) (by cases op <;> decide)) continued
  exact List.append_ne_nil_of_right_ne_nil _ (List.cons_ne_nil _ _) nothing

/-- An operand is no operation. -/
theorem Derivation.ne_operation (groups : GroupsLeft outer inner op)
    (operand : Derivation inner words tree) (left : Derivation outer words' tree') :
    words ≠ words' ++ .symbol op.symbol :: rest := by
  rintro rfl
  obtain ⟨first, more, lead, split, ⟨starts⟩, stops⟩ := left.starts groups
  exact operand.not_continued groups groups split starts stops

end GroupsLeft

/-- A primary is no power. -/
theorem Derivation.primary_ne_power {rest : List Lexeme} (plain : ¬ IsSignedNumber words')
    (primary : Derivation .primary words tree) (base : Derivation .primary words' tree') :
    words ≠ words' ++ .symbol .caret :: rest := by
  rintro rfl
  have nothing := primary.nothing_more base Stratum.primary.bound (Nat.le_refl _) (Nat.le_refl _)
    (ends_primary fun _ => plain) (.of_strong _ (by decide))
  exact List.cons_ne_nil _ _ nothing

/-- The base of a power is where it is. -/
theorem Derivation.power_unique {more more' : List Lexeme} (plain : ¬ IsSignedNumber words)
    (plain' : ¬ IsSignedNumber words') (base : Derivation .primary words tree)
    (base' : Derivation .primary words' tree') (same : words ++ more = words' ++ more') :
    words = words' ∧ more = more' :=
  base.prefix_unique base' same Stratum.primary.bound (Nat.le_refl _) (Nat.le_refl _)
    (ends_primary fun _ => plain) (ends_primary fun _ => plain') (.of_strong _ (by decide))
    (.of_strong _ (by decide))

/-- What starts with a primary does not start with a minus sign. -/
theorem Derivation.power_ne_minus {more rest : List Lexeme}
    (base : Derivation .primary words tree) : words ++ more ≠ .symbol .minus :: rest := by
  intro same
  cases base <;> cases same

theorem Derivation.primary_ne_minus {rest : List Lexeme}
    (primary : Derivation .primary words tree) : words ≠ .symbol .minus :: rest := by
  rw [← List.append_nil words]
  exact primary.power_ne_minus

theorem Derivation.power_ne_signedPower {value : Float} {more rest : List Lexeme}
    (plain : ¬ IsSignedNumber words) (signed : Binary64.isNegative value = true)
    (base : Derivation .primary words tree) : words ++ more ≠ .number value :: rest := by
  intro same
  cases base <;> cases same
  exact plain ⟨value, rfl, signed⟩

theorem Derivation.primary_ne_signedPower {value : Float} {rest : List Lexeme}
    (primary : Derivation .primary words tree) :
    words ≠ .number value :: .symbol .caret :: rest := by
  intro same
  cases primary <;> cases same

theorem Stratum.bound_ofOperator {op : BinaryOp} (loose : op ≠ .pow) :
    (ofOperator op).bound = op.leftPower := by
  cases op with
  | add | sub | mul | div => rfl
  | pow => exact absurd rfl loose

/-- Under roomy limits, reading on after the left side of an operator reads the operation. -/
theorem Derivation.extends {op : BinaryOp} {rest : List Lexeme} (loose : op ≠ .pow)
    (whole : Derivation (.ofOperator op) (words ++ .symbol op.symbol :: rest) tree)
    (left : Derivation (.ofOperator op) words tree') (finish : Span) :
    ∃ limits place last, Run limits finish (.extend op.leftPower tree' place) 0
      (Token.spelling (.symbol op.symbol :: rest)) (.done tree last []) := by
  have shorter : words.length ≤ (words ++ .symbol op.symbol :: rest).length := by simp
  have power := Stratum.bound_ofOperator loose
  have ends : Ends (.ofOperator op) (Token.lexemes (Token.spelling words))
      (Token.spelling (.symbol op.symbol :: rest)) := by
    refine .of_stops (.of_operator? (Lexeme.operator?_symbol op) ?_) ?_
    · rw [power]
      exact Nat.lt_succ_self _
    · cases op <;> decide
  obtain ⟨last, done⟩ := whole.done (Nat.le_refl _) finish
  obtain ⟨place, resume⟩ := left.resumes_roomy shorter finish
  have run := done op.leftPower [] (Nat.le_of_eq power.symm)
    ⟨trivial, fun caret => absurd caret Bool.false_ne_true⟩ trivial
  rw [List.append_nil, Token.spelling_append] at run
  have same := run.unique (resume _ _ _ (Nat.le_of_eq power.symm) ends (Task.run_read _ 0 _))
  exact ⟨_, place, last, Task.run_iff.mpr same.symm⟩

/-- What follows an operator starts with an operand of it. -/
theorem Derivation.continues {op : BinaryOp} {rest : List Lexeme} (loose : op ≠ .pow)
    (whole : Derivation (.ofOperator op) (words ++ .symbol op.symbol :: rest) tree)
    (left : Derivation (.ofOperator op) words tree') :
    ∃ first more lead, rest = first ++ more ∧
      Nonempty (Derivation (.ofPower op.rightPower) first lead) ∧
      Stops op.rightPower (Token.spelling more) := by
  obtain ⟨limits, place, last, run⟩ := whole.extends loose left (.point 0)
  cases run with
  | extend operator _ right =>
    obtain rfl := Option.some.inj (operator.symm.trans (Lexeme.operator?_symbol op))
    obtain ⟨-, used, same, -, stops, first, -⟩ := Spelled.of_right (Run.spelled right rfl)
    refine ⟨Token.lexemes used, Token.lexemes _, _, ?_, ⟨first⟩, stops.spelling_lexemes⟩
    rw [← Token.lexemes_append, ← same]
    exact (Token.lexemes_spelling rest).symm

/-- No more words follow the operand that an operator of one stratum ends with. -/
theorem operator_last {op op' : BinaryOp} {outer inner : Stratum} {lhs rhs lhs' : Expr}
    {left middle right : List Lexeme} (groups : GroupsLeft outer inner op)
    (groups' : GroupsLeft outer inner op') (first : Derivation outer left lhs)
    (second : Derivation inner (middle ++ .symbol op'.symbol :: right) rhs)
    (whole : Derivation outer (left ++ .symbol op.symbol :: middle) lhs') : False := by
  have ⟨loose, level, operands⟩ := groups
  subst level operands
  obtain ⟨start, more, lead, split, ⟨starts⟩, stops⟩ := whole.continues loose first
  exact second.not_continued groups groups' split starts stops

/-- Words have one last operator of a stratum that groups to the left. -/
theorem operator_unique {op op' : BinaryOp} {outer inner : Stratum} {lhs rhs lhs' rhs' : Expr}
    {left right left' right' : List Lexeme} (groups : GroupsLeft outer inner op)
    (groups' : GroupsLeft outer inner op')
    (first : Derivation outer left lhs) (second : Derivation inner right rhs)
    (first' : Derivation outer left' lhs') (second' : Derivation inner right' rhs')
    (same : left ++ .symbol op.symbol :: right = left' ++ .symbol op'.symbol :: right') :
    left = left' ∧ op = op' ∧ right = right' := by
  rcases append_cons_cases same with ⟨starts, sign, ends⟩ | ⟨middle, rfl, rfl⟩ | ⟨middle, rfl, rfl⟩
  · injection sign with sign
    exact ⟨starts, op.symbol_injective sign, ends⟩
  · exact (operator_last groups groups' first second first').elim
  · exact (operator_last groups' groups first' second' first).elim

/-- A derivation is determined by its stratum and its words. -/
theorem Derivation.unique (first : Derivation stratum words tree)
    (second : Derivation stratum words' tree') (same : words = words') :
    tree = tree' ∧ HEq first second := by
  induction first generalizing words' tree' with
  | number value =>
    cases second <;> cases same
    exact ⟨rfl, .rfl⟩
  | group inner ih =>
    cases second with
    | group inner' =>
      injection same with _ inside
      obtain ⟨rfl, same⟩ := ih inner' (List.append_cancel_right inside)
      obtain rfl := List.append_cancel_right inside
      obtain rfl := eq_of_heq same
      exact ⟨rfl, .rfl⟩
    | number | call => cases same
  | call name argument ih =>
    cases second with
    | call name' argument' =>
      injection same with called inside
      injection called with called
      injection inside with _ inside
      obtain ⟨rfl, same⟩ := ih argument' (List.append_cancel_right inside)
      obtain rfl := List.append_cancel_right inside
      obtain rfl := eq_of_heq same
      subst called
      exact ⟨rfl, .rfl⟩
    | number | group => cases same
  | primary inner ih =>
    cases second with
    | primary inner' =>
      obtain ⟨rfl, derived⟩ := ih inner' same
      subst same
      obtain rfl := eq_of_heq derived
      exact ⟨rfl, .rfl⟩
    | power plain left right => exact (inner.primary_ne_power plain left same).elim
    | signedPower signed => exact (inner.primary_ne_signedPower same).elim
    | negate => exact (inner.primary_ne_minus same).elim
  | power plain left right ihLeft ihRight =>
    cases second with
    | primary inner => exact (inner.primary_ne_power plain left same.symm).elim
    | power plain' left' right' =>
      obtain ⟨same, rest⟩ := left.power_unique plain plain' left' same
      injection rest with _ rest
      obtain ⟨rfl, derived⟩ := ihLeft left' same
      obtain ⟨rfl, derived'⟩ := ihRight right' rest
      subst same rest
      obtain rfl := eq_of_heq derived
      obtain rfl := eq_of_heq derived'
      exact ⟨rfl, .rfl⟩
    | signedPower signed => exact (left.power_ne_signedPower plain signed same).elim
    | negate => exact (left.power_ne_minus same).elim
  | signedPower signed right ih =>
    cases second with
    | primary inner => exact (inner.primary_ne_signedPower same.symm).elim
    | power plain left => exact (left.power_ne_signedPower plain signed same.symm).elim
    | signedPower signed' right' =>
      injection same with sign rest
      injection sign with value
      injection rest with _ rest
      obtain ⟨rfl, derived⟩ := ih right' rest
      subst value rest
      obtain rfl := eq_of_heq derived
      exact ⟨rfl, .rfl⟩
    | negate => cases same
  | negate operand ih =>
    cases second with
    | primary inner => exact (inner.primary_ne_minus same.symm).elim
    | power _ left => exact (left.power_ne_minus same.symm).elim
    | signedPower => cases same
    | negate operand' =>
      injection same with _ rest
      obtain ⟨rfl, derived⟩ := ih operand' rest
      subst rest
      obtain rfl := eq_of_heq derived
      exact ⟨rfl, .rfl⟩
  | unary inner ih =>
    cases second with
    | unary inner' =>
      obtain ⟨rfl, derived⟩ := ih inner' same
      subst same
      obtain rfl := eq_of_heq derived
      exact ⟨rfl, .rfl⟩
    | product either left right =>
      exact (inner.ne_operation (groupsLeft_product either) left same).elim
  | product either left right ihLeft ihRight =>
    cases second with
    | unary inner =>
      exact (inner.ne_operation (groupsLeft_product either) left same.symm).elim
    | product either' left' right' =>
      obtain ⟨starts, rfl, ends⟩ := operator_unique (groupsLeft_product either)
        (groupsLeft_product either') left right left' right' same
      obtain ⟨rfl, derived⟩ := ihLeft left' starts
      obtain ⟨rfl, derived'⟩ := ihRight right' ends
      subst starts ends
      obtain rfl := eq_of_heq derived
      obtain rfl := eq_of_heq derived'
      exact ⟨rfl, .rfl⟩
  | term inner ih =>
    cases second with
    | term inner' =>
      obtain ⟨rfl, derived⟩ := ih inner' same
      subst same
      obtain rfl := eq_of_heq derived
      exact ⟨rfl, .rfl⟩
    | sum either left right => exact (inner.ne_operation (groupsLeft_sum either) left same).elim
  | sum either left right ihLeft ihRight =>
    cases second with
    | term inner => exact (inner.ne_operation (groupsLeft_sum either) left same.symm).elim
    | sum either' left' right' =>
      obtain ⟨starts, rfl, ends⟩ := operator_unique (groupsLeft_sum either)
        (groupsLeft_sum either') left right left' right' same
      obtain ⟨rfl, derived⟩ := ihLeft left' starts
      obtain ⟨rfl, derived'⟩ := ihRight right' ends
      subst starts ends
      obtain rfl := eq_of_heq derived
      obtain rfl := eq_of_heq derived'
      exact ⟨rfl, .rfl⟩

end Grammar

end Calculator
