import Calculator.Proofs.Parse.Followers
import Calculator.Proofs.Parse.Sessions
import Calculator.Proofs.Token.Quotes

/-! # Where faults point

The parser copies places and makes none: what it points at is one of its tokens, or the end behind
them. Tokens cover parts of their equation, and so does what a scan finds wrong. So every fault of
an equation points at a part of it, and what it quotes is there.
-/

namespace Calculator

namespace Parse

variable {limits : Limits} {finish : Span} {task : Task} {depth : Nat} {tokens : List Token}
  {reading : Reading}

/-- The place that a reading is known by: that of its last token, or of its fault. -/
def Reading.place : Reading → Span
  | done _ last _ => last
  | failed fault _ _ => fault.span

/-- The places that a task is given. -/
def Task.places : Task → List Span
  | nested opening _ => [opening]
  | extend _ _ last => [last]
  | _ => []

theorem Task.forall_places_right {P : Span → Prop} {op : BinaryOp} {place : Span}
    (here : P place) : ∀ given ∈ (Task.right op place).places, P given := by
  unfold Task.right
  split
  · exact List.forall_mem_singleton.mpr here
  · exact List.forall_mem_nil _

theorem Reading.place_map (reading : Reading) (change : Expr → Expr) :
    (reading.map change).place = reading.place := by
  cases reading <;> rfl

/-- Closing a parenthesis adds its own place, and that of the token which should close it. -/
theorem Reading.place_close {P : Span → Prop} {opening : Span} {level : Nat} (opened : P opening)
    (inner : P reading.place) (left : ∀ token ∈ reading.left, P token.span) :
    P (reading.close opening level).place := by
  rcases reading with ⟨tree, last, _ | ⟨token, rest⟩⟩ | ⟨fault, depth, rest⟩
  · exact opened
  · have next := left token (List.mem_cons_self ..)
    unfold close
    dsimp only
    split <;> exact next
  · exact inner

/-- A run is known by the place of one of its tokens, by one that its task is given, or by the
end. -/
theorem Run.place {P : Span → Prop} (run : Run limits finish task depth tokens reading)
    (atEnd : P finish) (given : ∀ place ∈ task.places, P place)
    (ahead : ∀ token ∈ tokens, P token.span) : P reading.place := by
  -- What a run leaves is the end of its tokens, so the next run has no places but theirs.
  induction run with
  | operandMissing | callEnds => exact atEnd
  | number | signedPowerDeep | stray | rightTall => exact ahead _ (List.mem_cons_self ..)
  | callUnopened => exact ahead _ (List.mem_cons_of_mem _ (List.mem_cons_self ..))
  | nestedDeep | stop => exact given _ (List.mem_cons_self ..)
  | signedPower _ _ _ ih =>
    obtain ⟨here, behind⟩ := List.forall_mem_cons.mp ahead
    rw [Reading.place_map]
    exact ih (List.forall_mem_singleton.mpr here) behind
  | negate _ ih =>
    obtain ⟨here, behind⟩ := List.forall_mem_cons.mp ahead
    rw [Reading.place_map]
    exact ih (List.forall_mem_singleton.mpr here) behind
  | group inner ih =>
    obtain ⟨here, behind⟩ := List.forall_mem_cons.mp ahead
    exact Reading.place_close here (ih (List.forall_mem_singleton.mpr here) behind)
      fun token member => behind token (inner.passes.suffix.subset member)
  | call inner ih =>
    obtain ⟨here, behind⟩ := List.forall_mem_cons.mp (List.forall_mem_cons.mp ahead).2
    rw [Reading.place_map]
    exact Reading.place_close here (ih (List.forall_mem_singleton.mpr here) behind)
      fun token member => behind token (inner.passes.suffix.subset member)
  | operandFailed _ ih | operandTall _ _ ih => exact ih (List.forall_mem_nil _) ahead
  | nested _ _ ih => exact ih (List.forall_mem_nil _) ahead
  | expression first _ _ ihFirst ihMore =>
    exact ihMore (List.forall_mem_singleton.mpr (ihFirst (List.forall_mem_nil _) ahead))
      fun token member => ahead token (first.passes.suffix.subset member)
  | rightFailed _ _ _ ih =>
    obtain ⟨here, behind⟩ := List.forall_mem_cons.mp ahead
    exact ih (Task.forall_places_right here) behind
  | extend _ _ right _ _ ihRight ihMore =>
    obtain ⟨here, behind⟩ := List.forall_mem_cons.mp ahead
    exact ihMore (List.forall_mem_singleton.mpr (ihRight (Task.forall_places_right here) behind))
      fun token member => behind token (right.passes.suffix.subset member)

theorem span_surplus (token : Token) : (surplus token).span = token.span := by
  rcases surplus_cases token with ⟨-, same⟩ | ⟨-, same⟩ <;> rw [same] <;> rfl

end Parse

open Parse

variable {limits : Limits} {tokens : List Token} {equation : String}

/-- A fault in the order of the words points at one of them, or at the end behind them. -/
theorem span_of_parse {fault : ParseFault} (rejected : parse limits tokens = .error fault) :
    (∃ token ∈ tokens, fault.span = token.span) ∨
      fault.span = .point (tokens.getLast?.elim 0 (·.span.stop)) := by
  rcases exists_run_of_error rejected with
    ⟨tree, last, token, rest, run, rfl⟩ | ⟨level, left, run⟩
  · exact .inl ⟨token, run.passes.subset (List.mem_cons_self ..), span_surplus token⟩
  · exact run.place (P := fun place => (∃ token ∈ tokens, place = token.span) ∨
      place = .point (tokens.getLast?.elim 0 (·.span.stop))) (.inr rfl) (List.forall_mem_nil _)
      fun token member => .inl ⟨token, member, rfl⟩

/-- What is asked of a fault of an equation for its positions to be right. -/
structure Fault.Points (limits : Limits) (equation : String) (fault : Fault) : Prop where
  /-- Every position lies within the bytes of the equation. -/
  inside : ∀ label ∈ fault.labels, label.span.start + label.span.length ≤ equation.utf8ByteSize
  /-- Every position is a part of the equation, cut between characters, and what is said of the
  words there is true of it. -/
  quotes : ∀ label ∈ fault.labels, ∃ before slice after,
    label.span.Covers equation before slice after ∧
      ∀ cause, fault = .scan cause → cause.Quotes slice
  /-- What is wrong with the order of the words is wrong at one of them, or at the end of the
  last. -/
  token : ∀ cause, fault = .parse cause → ∃ tokens, tokenize limits equation = .ok tokens ∧
    ((∃ token ∈ tokens, cause.span = token.span) ∨
      cause.span = .point (tokens.getLast?.elim 0 (·.span.stop)))

/-- A part of an equation ends within it. -/
theorem Span.Covers.inside {span : Span} {before slice after : List Char}
    (covers : span.Covers equation before slice after) :
    span.start + span.length ≤ equation.utf8ByteSize := by
  have start := covers.start
  have stop := covers.stop
  rw [← length_utf8_toList, covers.text, utf8_append, List.length_append, Span.length]
  rw [utf8_append, List.length_append] at stop ⊢
  omega

/-- The tokens of an equation are parts of it, and so is the end behind them. -/
theorem exists_covers_of_token (accepted : tokenize limits equation = .ok tokens) :
    (∀ token ∈ tokens, ∃ before slice after, token.span.Covers equation before slice after) ∧
      ∃ before after,
        (Span.point (tokens.getLast?.elim 0 (·.span.stop))).Covers equation before [] after := by
  obtain ⟨-, scans, -⟩ := tokenize_eq_ok_iff.mp accepted
  have cut : Scanner.Cut limits.functions 0 none equation.toList tokens :=
    Scanner.cut_of_items scans
  have covered : ∀ token ∈ tokens, ∃ before slice after,
      token.span.Covers equation before slice after := by
    intro token member
    obtain ⟨earlier, later, split⟩ := List.append_of_mem member
    obtain ⟨before, slice, after, covers, -⟩ := cut.maximalMunch.munched earlier token later split
    exact ⟨before, slice, after, covers⟩
  refine ⟨covered, ?_⟩
  cases last : tokens.getLast? with
  | none => exact ⟨[], equation.toList, rfl, rfl, rfl⟩
  | some token =>
    obtain ⟨before, slice, after, covers⟩ := covered token (List.mem_of_getLast? last)
    refine ⟨before ++ slice, after, ?_, covers.stop, ?_⟩
    · rw [covers.text, List.append_nil]
    · rw [List.append_nil]
      exact covers.stop

/-- Whatever is wrong with an equation, the positions that are reported are right. -/
theorem solve_points (limits : Limits) (equation : String) (fault : Fault)
    (failed : solve limits equation = .error fault) : fault.Points limits equation := by
  cases fault with
  | scan cause =>
    have tokenized : tokenize limits equation = .error cause := arises_of_solve failed
    have points := pointsAt_of_tokenize tokenized
    have quotes : ∀ label ∈ (Fault.scan cause).labels, ∃ before slice after,
        label.span.Covers equation before slice after ∧ cause.Quotes slice :=
      fun label member => points label (Option.mem_toList.mp member)
    refine ⟨fun label member => ?_, fun label member => ?_, fun other same => by cases same⟩
    · obtain ⟨before, slice, after, covers, -⟩ := quotes label member
      exact covers.inside
    · obtain ⟨before, slice, after, covers, quoted⟩ := quotes label member
      refine ⟨before, slice, after, covers, fun other same => ?_⟩
      cases same
      exact quoted
  | parse cause =>
    obtain ⟨tokens, tokenized, rejected⟩ := exists_tokens_of_solve failed
    obtain ⟨covered, before, after, atEnd⟩ := exists_covers_of_token tokenized
    have place := span_of_parse rejected
    have covers : ∃ before slice after, cause.span.Covers equation before slice after := by
      rcases place with ⟨token, member, same⟩ | same
      · rw [same]
        exact covered token member
      · rw [same]
        exact ⟨before, [], after, atEnd⟩
    obtain ⟨before, slice, after, covers⟩ := covers
    refine ⟨List.forall_mem_singleton.mpr covers.inside,
      List.forall_mem_singleton.mpr ⟨before, slice, after, covers, fun other same => by cases same⟩,
      fun other same => ?_⟩
    cases same
    exact ⟨tokens, tokenized, place⟩
  | eval cause =>
    exact ⟨List.forall_mem_nil _, List.forall_mem_nil _, fun other same => by cases same⟩

/-- The space between two numbers, a character of two bytes, and the end behind an operator, before
space. -/
theorem solve_points_of_faults :
    let missing : Fault := .scan (.missingOperator (.number 1) (.number 2) ⟨1, 4⟩)
    let foreign : Fault := .scan (.unexpectedCharacter 'é' ⟨2, 4⟩)
    let unended : Fault := .parse (.unexpectedEnd .operand (.point 3))
    (solve {} "1 \t 2" = .error missing ∧ missing.Points {} "1 \t 2") ∧
      (solve {} "1+é" = .error foreign ∧ foreign.Points {} "1+é") ∧
      solve {} "(1+ " = .error unended ∧ unended.Points {} "(1+ " := by
  intro missing foreign unended
  have first : solve {} "1 \t 2" = .error missing := by decide +kernel
  have second : solve {} "1+é" = .error foreign := by decide +kernel
  have third : solve {} "(1+ " = .error unended := by decide +kernel
  exact ⟨⟨first, solve_points _ _ _ first⟩, ⟨second, solve_points _ _ _ second⟩, third,
    solve_points _ _ _ third⟩

end Calculator
