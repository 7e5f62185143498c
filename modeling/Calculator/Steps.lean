/-! # Steps with counters

Steps change a state on their way to a value and can end before it with a fault. What they did to
the state until then stays done. The counters in a state are of a fixed size: where one would be
raised above the largest number that it holds, or lowered below zero, the steps break off and have
no result at all.
-/

namespace Calculator

/-- Steps from states to values or faults, and to other states. -/
abbrev Steps (ε σ α : Type) : Type := ExceptT ε (StateT σ Option) α

/-- What comes of steps from a state, with the state they leave behind. -/
def Steps.outcome {ε σ α : Type} (steps : Steps ε σ α) (state : σ) : Option (Except ε α × σ) :=
  StateT.run (ExceptT.run steps) state

namespace Steps

variable {ε σ α β : Type} {steps : Steps ε σ α} {state later : σ} {value : α} {fault : ε}

theorem outcome_bind_of_ok {more : α → Steps ε σ β}
    (done : steps.outcome state = some (.ok value, later)) :
    (steps >>= more).outcome state = (more value).outcome later := by
  change (steps.outcome state).bind _ = _
  rw [done]
  rfl

theorem outcome_bind_of_error {more : α → Steps ε σ β}
    (failed : steps.outcome state = some (.error fault, later)) :
    (steps >>= more).outcome state = some (.error fault, later) := by
  change (steps.outcome state).bind _ = _
  rw [failed]
  rfl

theorem outcome_get_bind (more : σ → Steps ε σ β) (state : σ) :
    (get >>= more).outcome state = (more state).outcome state := rfl

theorem outcome_set_bind (more : PUnit → Steps ε σ β) (state later : σ) :
    (set later >>= more).outcome state = (more ⟨⟩).outcome later := rfl

theorem outcome_some_bind (value : α) (more : α → Steps ε σ β) (state : σ) :
    ((liftM (some value) : Steps ε σ α) >>= more).outcome state = (more value).outcome state := rfl

end Steps

namespace Counter

/-- A counter of numbers up to `top`, raised by one. -/
def raise (top count : Nat) : Option Nat := if count < top then some (count + 1) else none

/-- A counter lowered by one. -/
def lower : Nat → Option Nat
  | 0 => none
  | count + 1 => some count

end Counter

end Calculator
