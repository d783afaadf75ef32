/-!
Numbers with a fraction. They are stored in binary, with 53 digits, and written with as few decimal
digits as tell them from all others.

* `Decimal`: a number of decimal digits and a power of ten
* `Decimal.value`: the stored number that is nearest to a decimal
* `Decimal.shortest`: the shortest decimal that is read as a given number
* `Decimal.written`: how a number is written
-/

namespace BrightLint

/-- A whole number times a power of ten. -/
structure Decimal where
  digits : Nat
  power : Int := 0
deriving DecidableEq, Repr

namespace Decimal

/-- The stored number that is nearest. -/
def value (d : Decimal) : Float :=
  if 0 ≤ d.power then Float.ofScientific d.digits false d.power.toNat
  else Float.ofScientific d.digits true (-d.power).toNat

/-! ### Exact values -/

/-- A stored number as a whole number times a power of two, unless it is infinite or no number. -/
def binary? (x : Float) : Option (Int × Int) :=
  match x.toModel.unpack with
  | .finite sign mantissa exponent _ => some (sign.apply mantissa, exponent)
  | .zero _ => some (0, 0)
  | _ => none

def order (m n : Int) : Ordering := if m < n then .lt else if m = n then .eq else .gt

theorem order_eq_gt_iff {m n : Int} : order m n = .gt ↔ n < m := by
  unfold order
  by_cases hlt : m < n
  · simp only [hlt, if_true, reduceCtorEq, false_iff]
    omega
  · by_cases heq : m = n <;> simp [heq]
    omega

/-- How a whole number compares with a stored one. Nothing compares with what is no number. -/
def compare? (n : Int) (x : Float) : Option Ordering :=
  match binary? x with
  | some (m, e) =>
    some (order (n * Nat.pow 2 (-e).toNat) (m * Nat.pow 2 e.toNat))
  | none => if x.isNaN then none else some (if 0 < x then .lt else .gt)

/-- What is greater than a stored number stays so when it grows. -/
theorem compare?_gt_mono {m n : Int} {x : Float} (h : compare? m x = some .gt) (hmn : m ≤ n) :
    compare? n x = some .gt := by
  unfold compare? at h ⊢
  cases hx : binary? x with
  | none =>
    rw [hx] at h
    exact h
  | some v =>
    obtain ⟨a, e⟩ := v
    simp only [hx, Option.some.injEq, order_eq_gt_iff] at h ⊢
    exact Int.lt_of_lt_of_le h (Int.mul_le_mul_of_nonneg_right hmn (Int.natCast_nonneg _))

/-! ### The shortest decimal -/

/-- A fraction times a power of ten, as a fraction. -/
def scaled (num den : Nat) (power : Int) : Nat × Nat :=
  if 0 ≤ power then (num * Nat.pow 10 power.toNat, den)
  else (num, den * Nat.pow 10 (-power).toNat)

/-- The number of decimal digits before the point of a fraction; negative if zeros follow the
point. The power of two that is nearest below it tells the number but for one or two. -/
def magnitude (num den : Nat) : Int :=
  let near := Int.fdiv (((num.log2 : Int) - den.log2) * 30103) 100000
  let isBelow (k : Int) : Bool :=
    let (n, d) := scaled num den (-k)
    n < d
  ([near - 1, near, near + 1].find? isBelow).getD (near + 2)

/-- The two decimals of a number of digits that lie next to a fraction, the nearer one first, and if
they are equally near, the one with an even last digit. -/
def neighbours (num den : Nat) (width : Nat) : List Decimal :=
  let power := width - magnitude num den
  let (n, d) := scaled num den power
  let below := n / d
  let isBelowFirst := 2 * (n % d) < d || (2 * (n % d) == d && below % 2 == 0)
  let ds := if isBelowFirst then [below, below + 1] else [below + 1, below]
  ds.map fun digits => ⟨digits, -power⟩

/-- How many decimal digits tell any stored number from all others. -/
def enough : Nat := 17

/-- The shortest decimal that is read as a given positive number; of several the nearest. -/
def shortest (x : Float) : Decimal :=
  match binary? x with
  | none => ⟨0, 0⟩
  | some (m, e) =>
    let num := m.natAbs * Nat.pow 2 e.toNat
    let den := Nat.pow 2 (-e).toNat
    let candidates := (List.range enough).flatMap fun n => neighbours num den (n + 1)
    (candidates.find? fun d => d.value == x).getD ⟨0, 0⟩

/-! ### Writing -/

def zeros (n : Int) : List Char := List.replicate n.toNat '0'

/-- An exponent, with a sign and at least two digits. -/
def exponent (n : Int) : List Char :=
  let ds := Nat.toDigits 10 n.natAbs
  'e' :: (if n < 0 then '-' else '+') :: zeros (2 - ds.length) ++ ds

/-- A decimal as it is written: with a point among its digits, or, where that takes too many zeros,
with an exponent. -/
def positional (d : Decimal) : List Char :=
  let all := Nat.toDigits 10 d.digits
  let point : Int := all.length + d.power
  let ds := (all.reverse.dropWhile (· == '0')).reverse
  if -4 < point ∧ point ≤ 16 then
    if point ≤ 0 then '0' :: '.' :: zeros (-point) ++ ds
    else if ds.length ≤ point then ds ++ zeros (point - ds.length) ++ ['.', '0']
    else ds.take point.toNat ++ '.' :: ds.drop point.toNat
  else
    ds.take 1 ++ (if 1 < ds.length then '.' :: ds.drop 1 else []) ++ exponent (point - 1)

/-- How a number is written. -/
def written (x : Float) : String :=
  if x.isNaN then "nan"
  else
    let sign := if x.toBits >>> 63 == 1 then "-" else ""
    let size := if x.isInf then "inf" else if x == 0 then "0.0"
      else String.ofList (shortest x.abs).positional
    sign ++ size

end Decimal

end BrightLint
