/-! Sets of code points, each given by the rising list of the places where membership changes.
Nothing below the first place is in the set. -/

namespace LineBridge

abbrev CodeSet := List Nat

namespace CodeSet

/-- From the first place on, membership is the opposite of what the later places say. -/
def contains : CodeSet → Nat → Bool
  | [], _ => false
  | first :: later, n => decide (first ≤ n) && !contains later n

theorem contains_of_lt {first n : Nat} (later : CodeSet) (h : n < first) :
    contains (first :: later) n = false := by
  simp [contains, Nat.not_le.mpr h]

/-- A range that is the whole of a set up to the next place. -/
theorem contains_of_between {first next n : Nat} (later : CodeSet) (low : first ≤ n)
    (high : n < next) : contains (first :: next :: later) n = true := by
  simp [contains, low, Nat.not_le.mpr high]

end CodeSet

end LineBridge
