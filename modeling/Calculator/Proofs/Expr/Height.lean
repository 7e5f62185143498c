import Calculator.Proofs.Parse.Followers
import Calculator.Proofs.Parse.Lookahead
import Calculator.Proofs.Token.Progress

/-! # Length bounds height

Every edge of a tree costs a token, and one more token is the number at its end. This holds of every
tree that the parser builds on its way, so the limit on height is exceeded only by more tokens than
it has edges, also where the parser would fail later for another reason. Every token is a byte of
the equation at least: an equation that is short enough has no tree that is too tall.
-/

namespace Calculator

open Parse

variable {limits : Limits} {equation : String} {tokens : List Token} {tree : Expr}

/-- A tree has fewer edges on its longest path than tokens. -/
theorem height_lt_of_parse (accepted : parse limits tokens = .ok tree) :
    tree.height < tokens.length := by
  obtain ⟨-, derivation, -⟩ := parse_eq_ok_iff_within.mp accepted
  have height := derivation.height_lt_length
  rwa [Token.length_lexemes] at height

/-- No more tokens than make as many edges as are allowed are ever too tall. -/
theorem parse_ne_tooTall (short : tokens.length ≤ limits.maxHeight + 1) (bound : Nat)
    (place : Span) : parse limits tokens ≠ .error (.tooTall bound place) := by
  intro rejected
  rcases exists_run_of_error rejected with ⟨tree, last, token, rest, -, blames⟩ | ⟨level, left, run⟩
  · rcases surplus_cases token with ⟨-, same⟩ | ⟨-, same⟩ <;> cases same.symm.trans blames
  · have warranted := run.warranted
    simp only [Reading.Warranted, Task.spent] at warranted
    omega

/-- An equation has no more tokens than bytes. -/
theorem length_le_of_tokenize (accepted : tokenize limits equation = .ok tokens) :
    tokens.length ≤ equation.utf8ByteSize := by
  obtain ⟨-, scans, -⟩ := tokenize_eq_ok_iff.mp accepted
  have short := Scanner.length_items_le limits.functions (Scanner.start equation)
  change (scan limits.functions equation).length ≤ (utf8 equation.toList).length at short
  rwa [scans, List.length_map, length_utf8_toList] at short

/-- An equation is not too tall where none that is short enough has a token for each edge too
many. -/
theorem solve_ne_tooTall (short : limits.maxLength ≤ limits.maxHeight + 1) (bound : Nat)
    (place : Span) : solve limits equation ≠ .error (.parse (.tooTall bound place)) := by
  intro rejected
  obtain ⟨tokens, tokenized, parsed⟩ := exists_tokens_of_solve rejected
  obtain ⟨within, -⟩ := tokenize_eq_ok_iff.mp tokenized
  have count := length_le_of_tokenize tokenized
  exact parse_ne_tooTall (by omega) bound place parsed

/-- Trees are lower than their tokens are many, and tokens are no more than the bytes of an equation.
So the limit on height is exceeded neither by tokens nor by equations that are no longer than a path
of so many edges, and no equation exceeds it under the usual limits. -/
theorem length_bounds_height :
    (∀ limits tokens tree, parse limits tokens = .ok tree → tree.height + 1 ≤ tokens.length) ∧
    (∀ limits tokens bound place, tokens.length ≤ limits.maxHeight + 1 →
      parse limits tokens ≠ .error (.tooTall bound place)) ∧
    (∀ limits equation tokens, tokenize limits equation = .ok tokens →
      tokens.length ≤ equation.utf8ByteSize) ∧
    (∀ equation bound place, solve {} equation ≠ .error (.parse (.tooTall bound place))) ∧
    ∀ limits equation bound place, limits.maxLength ≤ limits.maxHeight + 1 →
      solve limits equation ≠ .error (.parse (.tooTall bound place)) :=
  ⟨fun _ _ _ => height_lt_of_parse,
    fun _ _ bound place short => parse_ne_tooTall short bound place,
    fun _ _ _ => length_le_of_tokenize,
    fun _ bound place => solve_ne_tooTall (by decide) bound place,
    fun _ _ bound place short => solve_ne_tooTall short bound place⟩

/-- The square of a number with a sign has three tokens and two edges on its longest path: a limit
of two edges allows it, as it does every equation of three bytes, and one of one edge does not. -/
theorem length_bounds_height_of_square :
    let tokens := Token.spelling [.number (-2), .symbol .caret, .number 2]
    let tree : Expr := .negate (.binary .pow (.literal (- -2)) (.literal 2))
    let limits : Limits := { maxHeight := 2, maxLength := 3 }
    let low : Limits := { maxHeight := 1 }
    (parse limits tokens = .ok tree ∧ tree.height + 1 ≤ tokens.length) ∧
      (tokens.length ≤ limits.maxHeight + 1 ∧
        parse limits tokens ≠ .error (.tooTall 2 (.point 0))) ∧
      parse low tokens = .error (.tooTall 1 (.point 0)) ∧
      (∃ words, tokenize {} "-2^2" = .ok words ∧ words.length ≤ "-2^2".utf8ByteSize) ∧
      limits.maxLength ≤ limits.maxHeight + 1 ∧
        solve limits "1^2" ≠ .error (.parse (.tooTall 2 ⟨0, 3⟩)) := by
  intro tokens tree limits low
  obtain ⟨heights, tall, counts, -, solves⟩ := length_bounds_height
  have read : parse limits tokens = .ok tree := by decide +kernel
  have short : tokens.length ≤ limits.maxHeight + 1 := by decide
  have words : tokenize {} "-2^2" = .ok
      [⟨.number (-2), ⟨0, 2⟩⟩, ⟨.symbol .caret, ⟨2, 3⟩⟩, ⟨.number 2, ⟨3, 4⟩⟩] :=
    eq_ok_of_toOption (by decide +kernel)
  have few : limits.maxLength ≤ limits.maxHeight + 1 := by decide
  exact ⟨⟨read, heights _ _ _ read⟩, ⟨short, tall _ _ _ _ short⟩, by decide +kernel,
    ⟨_, words, counts _ _ _ words⟩, few, solves _ _ _ _ few⟩

end Calculator
