/-! # Ranges

    Sets of code points as increasing lists of ranges, which is how tables
    of character properties are given. -/

namespace BatchFilter

/-- Ranges of numbers, each with its first and its last one, in increasing
    order. -/
abbrev Ranges : Type := List (Nat × Nat)

/-- Does a number lie in one of the ranges? -/
def Ranges.covers : Ranges → Nat → Bool
  | [], _ => false
  | (first, last) :: rest, n =>
      if n < first then false
      else if n ≤ last then true
      else Ranges.covers rest n

end BatchFilter
