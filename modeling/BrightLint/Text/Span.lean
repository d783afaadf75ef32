/-!
Parts of a list named by signed bounds. A bound that is negative counts from the end, and a bound
outside the list is moved to the nearer end, so a span is always defined.

* `between lo hi xs`: the items from bound `lo` up to bound `hi`
* `onward lo xs`: the same up to the end
* `get? i xs`: one item, if there is one at `i`
* `set i x xs`, `cut lo hi xs`: replace an item, remove a span
-/

namespace BrightLint.Span

variable {α : Type}

/-- The place that a signed bound names among `n` items. -/
def place (n : Nat) (i : Int) : Nat :=
  if i < 0 then (i + n).toNat else min i.toNat n

def between (lo hi : Int) (xs : List α) : List α :=
  (xs.drop (place xs.length lo)).take (place xs.length hi - place xs.length lo)

def onward (lo : Int) (xs : List α) : List α := xs.drop (place xs.length lo)

/-- The index of an item, if the signed index lies inside a list of `n` items. -/
def index? (n : Nat) (i : Int) : Option Nat :=
  let j := if i < 0 then i + n else i
  if 0 ≤ j ∧ j < n then some j.toNat else none

def get? (i : Int) (xs : List α) : Option α := (index? xs.length i).bind (xs[·]?)

/-- Replaces the item at a signed index; a list that has none there is left as it is. -/
def set (i : Int) (x : α) (xs : List α) : List α :=
  match index? xs.length i with
  | some j => xs.set j x
  | none => xs

/-- Removes the items from bound `lo` up to bound `hi`; a span that ends before it starts removes
nothing. -/
def cut (lo hi : Int) (xs : List α) : List α :=
  let a := place xs.length lo
  let b := place xs.length hi
  if a < b then xs.take a ++ xs.drop b else xs

/-! ### Bounds inside the list -/

theorem place_ofNat {n k : Nat} (h : k ≤ n) : place n k = k := by
  unfold place
  rw [if_neg (by omega)]
  omega

theorem place_le (n : Nat) (i : Int) : place n i ≤ n := by
  unfold place
  split <;> omega

theorem length_cut (lo hi : Int) (xs : List α) :
    (cut lo hi xs).length + (between lo hi xs).length = xs.length := by
  have hb := place_le xs.length hi
  unfold cut between
  simp only
  split <;> simp only [List.length_append, List.length_take, List.length_drop] <;> omega

theorem length_set (i : Int) (x : α) (xs : List α) : (set i x xs).length = xs.length := by
  unfold set
  split <;> simp

end BrightLint.Span
