/-! # Sets of Code Points

    A property of characters is given as the ranges of code points that have
    it, in ascending order. -/

namespace SqlShell

/-- The code points from `first` to `last`, both included. -/
abbrev CodeRange := Nat × Nat

/-- A set of code points: ascending ranges that do not touch. -/
abbrev CodeSet := List CodeRange

namespace CodeSet

/-- Membership; the search ends at the first range that lies above. -/
def contains (n : Nat) : CodeSet → Bool
  | [] => false
  | (first, last) :: r => if n < first then false else if n ≤ last then true else contains n r

end CodeSet

end SqlShell
