/-!
What a text can be spelt out with. A character may be given by its two halves, and then a half may
also be given alone, although it is no character. A text with such halves in it is kept as it was
spelt out.

* `Point`: a character or a half of one
* `Halved`: a text in which a half stands alone
-/

namespace BrightLint.Text

/-- A character, or a half of one that stands alone. -/
inductive Point where
  | whole (c : Char)
  | half (n : Fin 0x800)
deriving DecidableEq, Repr

namespace Point

/-- The number of a point. Those of the halves are set aside for them. -/
def code : Point → Nat
  | whole c => c.toNat
  | half n => 0xD800 + n

def isHalf : Point → Bool
  | whole _ => false
  | half _ => true

/-- The character that is shown for a point: a sign of its own for a half. -/
def shown : Point → Char
  | whole c => c
  | half _ => '�'

/-- The point of a number below that of the last character. -/
def ofCode (n : Nat) : Point :=
  if h : 0xD800 ≤ n ∧ n < 0xE000 then .half ⟨n - 0xD800, by omega⟩ else .whole (Char.ofNat n)

end Point

/-- The points of a text. -/
def points (s : String) : List Point := s.toList.map .whole

/-- A text in which at least one half of a character stands alone. -/
structure Halved where
  points : List Point
  hasHalf : points.any Point.isHalf = true
deriving DecidableEq, Repr

end BrightLint.Text
