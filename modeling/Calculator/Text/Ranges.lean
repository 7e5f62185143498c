/-! # Ranges of code points

A property of characters is carried as the closed ranges of code points that have it, in ascending
order. `inRanges_iff` says that the search, which stops at the first range above the code point,
misses none.
-/

namespace Calculator.Text

/-- Ranges in order, each of them with a member, apart from one another. -/
def Ascending : List (Nat × Nat) → Bool
  | (first, last) :: (next, stop) :: rest =>
    first ≤ last && last < next && Ascending ((next, stop) :: rest)
  | [(first, last)] => first ≤ last
  | [] => true

/-- Whether a code point lies in one of the ranges, which ascend. -/
def inRanges : List (Nat × Nat) → Nat → Bool
  | (first, last) :: rest, n => first ≤ n && (n ≤ last || inRanges rest n)
  | [], _ => false

private theorem last_lt_of_ascending {range : Nat × Nat} {rest : List (Nat × Nat)}
    (ascending : Ascending (range :: rest)) : ∀ other ∈ rest, range.2 < other.1 := by
  induction rest generalizing range with
  | nil => exact fun _ member => nomatch member
  | cons next rest ih =>
    simp only [Ascending, Bool.and_eq_true, decide_eq_true_eq] at ascending
    intro other member
    rcases List.mem_cons.mp member with rfl | member
    · exact ascending.1.2
    · have bound := ih ascending.2 other member
      have nonempty : next.1 ≤ next.2 := by
        cases rest with
        | nil => exact of_decide_eq_true ascending.2
        | cons _ _ =>
          simp only [Ascending, Bool.and_eq_true, decide_eq_true_eq] at ascending
          exact ascending.2.1.1
      omega

private theorem tail_ascending {range : Nat × Nat} {rest : List (Nat × Nat)}
    (ascending : Ascending (range :: rest)) : Ascending rest := by
  cases rest with
  | nil => rfl
  | cons _ _ =>
    simp only [Ascending, Bool.and_eq_true] at ascending
    exact ascending.2

private theorem first_le_last {range : Nat × Nat} {rest : List (Nat × Nat)}
    (ascending : Ascending (range :: rest)) : range.1 ≤ range.2 := by
  cases rest with
  | nil => exact of_decide_eq_true ascending
  | cons _ _ =>
    simp only [Ascending, Bool.and_eq_true, decide_eq_true_eq] at ascending
    exact ascending.1.1

/-- The search finds exactly the code points of the ranges. -/
theorem inRanges_iff {ranges : List (Nat × Nat)} (ascending : Ascending ranges) (n : Nat) :
    inRanges ranges n ↔ ∃ range ∈ ranges, range.1 ≤ n ∧ n ≤ range.2 := by
  induction ranges with
  | nil => simp [inRanges]
  | cons range rest ih =>
    have above := last_lt_of_ascending ascending
    have proper := first_le_last ascending
    simp only [inRanges, Bool.and_eq_true, Bool.or_eq_true, decide_eq_true_eq,
      ih (tail_ascending ascending), List.mem_cons]
    constructor
    · rintro ⟨low, high | ⟨other, member, within⟩⟩
      · exact ⟨range, .inl rfl, low, high⟩
      · exact ⟨other, .inr member, within⟩
    · rintro ⟨other, rfl | member, within⟩
      · exact ⟨within.1, .inl within.2⟩
      · have := above other member
        exact ⟨by omega, .inr ⟨other, member, within⟩⟩

end Calculator.Text
