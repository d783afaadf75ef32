/-!
Sets of characters given as runs of code points. A run `(first, last, step)` holds the code
points `first, first + step, …` up to `last`; a step of two serves the blocks in which the two
cases of a letter alternate.
-/

namespace BrightLint.Text

/-- A set of code points, as a list of runs `(first, last, step)`. -/
abbrev Ranges := List (Nat × Nat × Nat)

namespace Ranges

/-- Whether a code point lies on one of the runs. -/
def has (rs : Ranges) (n : Nat) : Bool :=
  rs.any fun (first, last, step) => first ≤ n && n ≤ last && (n - first) % step == 0

end Ranges

end BrightLint.Text
