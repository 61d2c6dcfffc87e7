/-!
# Sets of code points

A set of code points is written as the list of its boundaries in increasing order: the first code
point of each run of members, then the first code point after that run. Membership is the parity
of the number of boundaries passed, which `contains` computes from the front, so that low code
points are decided early.

Main statement: `contains_cons_cons`, the reading of a list by runs.
-/

namespace DocStore.Unicode

/-- Whether a code point belongs to the set with the given boundaries. -/
def contains : List Nat → Nat → Bool
  | [], _ => false
  | bound :: rest, c => if c < bound then false else !contains rest c

/-- A code point belongs to a set if it lies in the first run or, past it, in a later one. -/
theorem contains_cons_cons (first after : Nat) (rest : List Nat) (c : Nat) (h : first ≤ after) :
    contains (first :: after :: rest) c =
      (decide (first ≤ c ∧ c < after) || (decide (after ≤ c) && contains rest c)) := by
  simp only [contains]
  by_cases h1 : c < first
  · simp [h1]; omega
  · by_cases h2 : c < after
    · simp [h1, h2]; omega
    · simp [h1, h2]; omega

end DocStore.Unicode
