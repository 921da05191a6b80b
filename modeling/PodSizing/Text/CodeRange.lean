/-!
# Ranges of code points

Classes of characters are given as ranges of code points with their first and last member, in
order and apart from each other.
-/

namespace PodSizing.Text

/-- The character lies in one of the ranges. -/
def inRanges (ranges : List (Nat × Nat)) (c : Char) : Bool :=
  ranges.any fun (first, last) => first ≤ c.toNat && c.toNat ≤ last

/-- Each range ends where it starts or later, and before the next one. -/
def areOrdered : List (Nat × Nat) → Bool
  | [] => true
  | [(first, last)] => first ≤ last
  | (first, last) :: (next, end') :: rest =>
      first ≤ last && last + 1 < next && areOrdered ((next, end') :: rest)

end PodSizing.Text
