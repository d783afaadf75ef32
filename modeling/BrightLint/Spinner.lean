/-!
The sign on the terminal that the linter is at work: a bar that turns.
-/

namespace BrightLint.Spinner

/-- The positions of the bar. -/
def positions : List Char := ['|', '/', '-', '\\']

/-- What is written for the turn with a given number: the bar, and the way back over it. -/
def turn (n : Nat) : List Char := [positions.getD (n % positions.length) '|', '\r']

/-- What a number of turns writes. -/
def turns (n : Nat) : String := String.ofList ((List.range n).flatMap turn)

end BrightLint.Spinner
