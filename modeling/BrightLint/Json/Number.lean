import BrightLint.Json.Basic

/-!
Values as quantities. The settings hold limits and sizes, which a user may give in any type: what a
type allows is done, and the rest is a fault.

* `number`: the whole number that a value counts as
* `plus`: the sum of two numbers
* `times`: a value times a number; a text or a list is repeated
* `less`: whether one value comes before another of its type
-/

namespace BrightLint.Json

/-- The whole number that a value counts as. -/
def number (v : Json) : Except Fault Int :=
  match v.asInt? with
  | some n => .ok n
  | none => .error .wrongType

/-- The sum of two numbers. -/
def plus (v w : Json) : Except Fault Json :=
  match v.quantity?, w.quantity? with
  | some q, some r => (q.plus r).map ofQuantity
  | _, _ => .error .wrongType

/-- A text or a list a whole number of times over. -/
def repeated (v n : Json) : Except Fault Json := do
  let n ← n.number
  match v, v.points? with
  | arr items, _ => return arr (List.replicate n.toNat items).flatten
  | _, some ps => return ofPoints (List.replicate n.toNat ps).flatten
  | _, none => throw .wrongType

/-- The product of two values, of which at least one has to be a number. -/
def times (v w : Json) : Except Fault Json :=
  match v.quantity?, w.quantity? with
  | some q, some r => (q.times r).map ofQuantity
  | some _, none => w.repeated v
  | none, _ => v.repeated w

mutual

/-- Whether one value comes before another: numbers by size, texts by their characters, lists by
the first items in which they differ. Other values have no order. -/
def less : Json → Json → Except Fault Bool
  | arr xs, arr ys => lessItems xs ys
  | v, w => match v.points?, w.points?, v.quantity?, w.quantity? with
    | some ps, some qs, _, _ =>
      .ok (decide (ps.map Text.Point.code < qs.map Text.Point.code))
    | _, _, some q, some r => .ok (q.less r)
    | _, _, _, _ => .error .wrongType

def lessItems : List Json → List Json → Except Fault Bool
  | x :: xs, y :: ys => if x.same y then lessItems xs ys else less x y
  | [], _ :: _ => .ok true
  | _, [] => .ok false

end

/-- A value is compared with a whole number as the number that it counts as. -/
theorem less_whole (v : Json) (n : Int) :
    less v (int n) = match v.quantity? with
      | some q => .ok (q.less (.whole n))
      | none => .error .wrongType := by
  rw [less]
  · cases v <;> rfl
  · rintro xs ys - ⟨⟩

theorem less_int (m n : Int) : less (int m) (int n) = .ok (decide (m < n)) := less_whole _ _

theorem times_int (m n : Int) : times (int m) (int n) = .ok (int (m * n)) := rfl

end BrightLint.Json
