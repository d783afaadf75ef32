import BrightLint.Decimal
import BrightLint.Fault

/-!
Quantities: whole numbers of any size, and numbers with a fraction as they are stored. The two are
compared by their exact values; they are added and multiplied as stored numbers, for which a whole
number can be too large.

* `Quantity.same`, `Quantity.less`: when two quantities are equal, and which is the smaller
* `Quantity.plus`, `Quantity.times`: sum and product
* `Quantity.text`: how a quantity is written
-/

namespace BrightLint

/-- A number. -/
inductive Quantity where
  | whole (n : Int)
  | stored (x : Float)
deriving DecidableEq, Repr

namespace Quantity

/-- Whether two quantities are equal. What is no number is taken for equal to itself. -/
def same : Quantity → Quantity → Bool
  | whole m, whole n => m == n
  | whole m, stored y => Decimal.compare? m y == some .eq
  | stored x, whole n => Decimal.compare? n x == some .eq
  | stored x, stored y => x == y || (x.isNaN && y.isNaN)

/-- Whether a quantity is smaller than another. -/
def less : Quantity → Quantity → Bool
  | whole m, whole n => decide (m < n)
  | whole m, stored y => Decimal.compare? m y == some .lt
  | stored x, whole n => Decimal.compare? n x == some .gt
  | stored x, stored y => decide (x < y)

/-- What is smaller than a whole number is smaller than a greater one. -/
theorem less_whole_mono {q : Quantity} {m n : Int} (h : q.less (.whole m) = true) (hmn : m ≤ n) :
    q.less (.whole n) = true := by
  cases q with
  | whole k => exact decide_eq_true (Int.lt_of_lt_of_le (of_decide_eq_true h) hmn)
  | stored x => exact beq_iff_eq.2 (Decimal.compare?_gt_mono (beq_iff_eq.1 h) hmn)

/-- A quantity as a stored number, unless it is too large. -/
def toFloat : Quantity → Except Fault Float
  | whole n => if (Float.ofInt n).isInf then .error .tooLarge else .ok (Float.ofInt n)
  | stored x => .ok x

/-- An operation that is exact on whole numbers. -/
def combine (onWhole : Int → Int → Int) (onStored : Float → Float → Float) :
    Quantity → Quantity → Except Fault Quantity
  | whole m, whole n => .ok (whole (onWhole m n))
  | q, r => do return stored (onStored (← q.toFloat) (← r.toFloat))

def plus : Quantity → Quantity → Except Fault Quantity := combine (· + ·) (· + ·)

def times : Quantity → Quantity → Except Fault Quantity := combine (· * ·) (· * ·)

/-- How a quantity is written. -/
def text : Quantity → String
  | whole n => toString n
  | stored x => Decimal.written x

end Quantity

end BrightLint
