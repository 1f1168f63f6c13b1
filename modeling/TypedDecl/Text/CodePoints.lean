/-!
Sets of code points, written as ascending lists of closed ranges.
-/

namespace TypedDecl.Text

abbrev CodePoints := List (Nat × Nat)

namespace CodePoints

/-- Each range ends before the next one begins. -/
def Ascending : CodePoints → Prop
  | [] => True
  | [(first, last)] => first ≤ last
  | (first, last) :: (next, stop) :: more =>
      first ≤ last ∧ last < next ∧ Ascending ((next, stop) :: more)

instance Ascending.decidable : (ranges : CodePoints) → Decidable ranges.Ascending
  | [] => isTrue trivial
  | [(first, last)] => inferInstanceAs (Decidable (first ≤ last))
  | (first, last) :: (next, stop) :: more =>
      have := Ascending.decidable ((next, stop) :: more)
      inferInstanceAs (Decidable (first ≤ last ∧ last < next ∧ Ascending ((next, stop) :: more)))

/-- The search ends at the first range that begins above the code point. -/
def covers : CodePoints → Nat → Bool
  | [], _ => false
  | (first, last) :: more, n => if n < first then false else n ≤ last || covers more n

theorem Ascending.tail {range : Nat × Nat} {more : CodePoints}
    (ascending : Ascending (range :: more)) : Ascending more := by
  cases more with
  | nil => trivial
  | cons next more => exact ascending.2.2

theorem Ascending.first_le {range other : Nat × Nat} {more : CodePoints}
    (ascending : Ascending (range :: more)) (mem : other ∈ more) : range.1 ≤ other.1 := by
  induction more generalizing range with
  | nil => cases mem
  | cons next more ih =>
    obtain ⟨here, before, rest⟩ := ascending
    have step : range.1 ≤ next.1 := Nat.le_trans here (Nat.le_of_lt before)
    rcases List.mem_cons.mp mem with rfl | later
    · exact step
    · exact Nat.le_trans step (ih rest later)

/-- Over ascending ranges the early end of the search loses nothing. -/
theorem covers_iff {ranges : CodePoints} (ascending : ranges.Ascending) (n : Nat) :
    ranges.covers n = true ↔ ∃ range ∈ ranges, range.1 ≤ n ∧ n ≤ range.2 := by
  induction ranges with
  | nil => simp [covers]
  | cons range more ih =>
    have tail := ih ascending.tail
    by_cases below : n < range.1
    · simp only [covers, below, ↓reduceIte, Bool.false_eq_true, false_iff, not_exists, not_and]
      intro other mem least
      rcases List.mem_cons.mp mem with rfl | later
      · omega
      · have := ascending.first_le later
        omega
    · simp only [covers, below, ↓reduceIte, Bool.or_eq_true, decide_eq_true_eq, tail,
        List.mem_cons, exists_eq_or_imp]
      simp only [Nat.not_lt.mp below, true_and]

end CodePoints

end TypedDecl.Text
