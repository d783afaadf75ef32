import BrightLint.Proofs.BenchSoundness
import Mathlib.Data.List.Chain

/-!
Nesting. What opens and closes in a list of symbols is followed as a height, to which each symbol
adds what a function `rise` says. A list stays up when the height never falls below zero, nor below
what a function `need` asks for at a symbol; it is nested when the height comes back to zero as well.

A production whose right-hand side is nested, and whose result does not change the height, keeps
nesting in both directions. So a list that is reduced to a single symbol was nested, and so were its
brackets: all productions of both grammars are of this kind.

* `heightBy`, `StaysUp`, `NestedBy`: heights, and lists that are nested
* `nestedBy_replace`: a nested part can be replaced by a symbol that does not change the height
* `WellBracketed`: lists in which the brackets are nested, and none closes another kind of bracket
* `Derives.wellBracketed`: what is derived from a symbol is well bracketed
-/

namespace BrightLint

open Relation

/-! ### Heights -/

/-- The height after a list of symbols, each of which adds what `rise` says. -/
def heightBy (rise : Symbol → Int) : List Symbol → Int
  | [] => 0
  | t :: st => rise t + heightBy rise st

/-- Whether the height, which is `k` at first, is never below zero, and at each symbol as high as
`need` says. -/
def StaysUp (rise : Symbol → Int) (need : Symbol → Nat) : Int → List Symbol → Prop
  | k, [] => 0 ≤ k
  | k, t :: st => need t ≤ k ∧ StaysUp rise need (k + rise t) st

instance decidableStaysUp (rise : Symbol → Int) (need : Symbol → Nat) :
    (k : Int) → (st : List Symbol) → Decidable (StaysUp rise need k st)
  | k, [] => inferInstanceAs (Decidable (0 ≤ k))
  | k, t :: st =>
    have := decidableStaysUp rise need (k + rise t) st
    inferInstanceAs (Decidable (need t ≤ k ∧ StaysUp rise need (k + rise t) st))

/-- Everything that opens is closed, and nothing is closed that has not been opened. -/
structure NestedBy (rise : Symbol → Int) (st : List Symbol) : Prop where
  stays : StaysUp rise (fun _ => 0) 0 st
  closed : heightBy rise st = 0

instance decidableNestedBy (rise : Symbol → Int) (st : List Symbol) : Decidable (NestedBy rise st) :=
  decidable_of_iff (StaysUp rise (fun _ => 0) 0 st ∧ heightBy rise st = 0)
    ⟨fun h => ⟨h.1, h.2⟩, fun h => ⟨h.1, h.2⟩⟩

section Heights

variable {rise : Symbol → Int} {need : Symbol → Nat}

@[simp]
theorem heightBy_append (a b : List Symbol) :
    heightBy rise (a ++ b) = heightBy rise a + heightBy rise b := by
  induction a with
  | nil => simp [heightBy]
  | cons t a ih => simp [heightBy, ih]; omega

@[simp]
theorem heightBy_cons (t : Symbol) (st : List Symbol) :
    heightBy rise (t :: st) = rise t + heightBy rise st := rfl

@[simp]
theorem heightBy_nil : heightBy rise [] = 0 := rfl

theorem StaysUp.nonneg {k : Int} {st : List Symbol} (h : StaysUp rise need k st) : 0 ≤ k := by
  cases st with
  | nil => exact h
  | cons t st => exact Int.le_trans (Int.natCast_nonneg _) h.1

theorem StaysUp.mono {k m : Int} {st : List Symbol} (h : StaysUp rise need k st) (hkm : k ≤ m) :
    StaysUp rise need m st := by
  induction st generalizing k m with
  | nil => exact Int.le_trans h hkm
  | cons t st ih => exact ⟨Int.le_trans h.1 hkm, ih h.2 (by omega)⟩

theorem staysUp_append {k : Int} {a b : List Symbol} :
    StaysUp rise need k (a ++ b) ↔
      StaysUp rise need k a ∧ StaysUp rise need (k + heightBy rise a) b := by
  induction a generalizing k with
  | nil =>
    simp only [List.nil_append, heightBy, Int.add_zero]
    exact ⟨fun h => ⟨h.nonneg, h⟩, And.right⟩
  | cons t a ih => simp only [List.cons_append, StaysUp, heightBy, ih, and_assoc, Int.add_assoc]

/-- **A symbol can be replaced** by symbols that stay up where it does, and do not lower the height
more. -/
theorem StaysUp.replace {k : Int} {u m v : List Symbol} {x : Symbol}
    (hm : StaysUp rise need (need x) m) (hx : rise x ≤ heightBy rise m)
    (h : StaysUp rise need k (u ++ x :: v)) : StaysUp rise need k (u ++ m ++ v) := by
  rw [List.append_assoc, staysUp_append, staysUp_append]
  obtain ⟨hu, hneed, hv⟩ := staysUp_append.1 h
  exact ⟨hu, hm.mono hneed, hv.mono (by omega)⟩

theorem nestedBy_singleton {x : Symbol} (hx : rise x = 0) : NestedBy rise [x] :=
  ⟨by simp [StaysUp, hx], by simp [hx]⟩

/-- **A nested part can be replaced** by a symbol that does not change the height, and the symbol by
the part. -/
theorem nestedBy_replace {u m v : List Symbol} {x : Symbol} (hm : NestedBy rise m)
    (hx : rise x = 0) : NestedBy rise (u ++ m ++ v) ↔ NestedBy rise (u ++ x :: v) := by
  have hheight : heightBy rise (u ++ m ++ v) = heightBy rise (u ++ x :: v) := by
    simp [hm.closed, hx]
  refine ⟨fun h => ⟨?_, hheight ▸ h.closed⟩, fun h => ⟨?_, hheight ▸ h.closed⟩⟩
  · have hstays := h.stays
    rw [List.append_assoc, staysUp_append, staysUp_append, hm.closed, Int.add_zero] at hstays
    exact staysUp_append.2 ⟨hstays.1, hstays.2.1.nonneg, by simpa [hx] using hstays.2.2⟩
  · exact StaysUp.replace hm.stays (Int.le_of_eq (hx.trans hm.closed.symm)) h.stays

/-- Where a symbol that lowers the height by one stands in a nested list, something is open. -/
theorem NestedBy.pos_of_lower {u v : List Symbol} {t : Symbol} (h : NestedBy rise (u ++ t :: v))
    (ht : rise t = -1) : 1 ≤ heightBy rise u := by
  have hstays := (staysUp_append.1 h.stays).2.2.nonneg
  omega

/-- What a grammar reduces to a list that stays up has stayed up. -/
theorem Grammar.Reduces.staysUp {g : Grammar} {a b : List Symbol} {k : Int}
    (hg : ∀ p ∈ g.productions,
      StaysUp rise need (need p.result) p.rhs ∧ rise p.result ≤ heightBy rise p.rhs)
    (h : g.Reduces a b) (hb : StaysUp rise need k b) : StaysUp rise need k a := by
  obtain ⟨p, hp, u, v, rfl, rfl⟩ := h
  exact StaysUp.replace (hg p hp).1 (hg p hp).2 hb

/-- What a grammar reduces to a nested list was nested. -/
theorem Grammar.Reduces.nestedBy {g : Grammar} {a b : List Symbol}
    (hg : ∀ p ∈ g.productions, rise p.result = 0 ∧ NestedBy rise p.rhs) (h : g.Reduces a b)
    (hb : NestedBy rise b) : NestedBy rise a := by
  obtain ⟨p, hp, u, v, rfl, rfl⟩ := h
  obtain ⟨hresult, hrhs⟩ := hg p hp
  exact (nestedBy_replace hrhs hresult).2 hb

end Heights

/-! ### Brackets -/

/-- What a bracket does to the height. -/
def Symbol.rise (t : Symbol) : Int :=
  if t.closer?.isSome then 1 else if t.isCloser then -1 else 0

/-- Whether two symbols can stand side by side: no bracket is closed by one of another kind. -/
def Symbol.suits (o c : Symbol) : Bool := !c.isCloser || o.closer?.all (· == c)

/-- Brackets are nested, and none closes a bracket of another kind right before it. -/
structure WellBracketed (st : List Symbol) : Prop where
  nested : NestedBy Symbol.rise st
  suited : st.IsChain (fun o c => o.suits c = true)

theorem Symbol.rise_of_closer? {o c : Symbol} (h : o.closer? = some c) :
    o.rise = 1 ∧ c.rise = -1 ∧ c.isCloser = true := by
  cases o <;> simp [closer?] at h <;> subst h <;> decide

theorem Symbol.rise_of_isCloser {t : Symbol} (h : t.isCloser = true) : t.rise = -1 := by
  cases t <;> simp [isCloser] at h <;> rfl

theorem Symbol.rise_of_plain {t : Symbol} (ho : t.closer? = none) (hc : t.isCloser = false) :
    t.rise = 0 := by
  simp [rise, ho, hc]

theorem Symbol.closer?_injective {o o' c : Symbol} (h : o.closer? = some c)
    (h' : o'.closer? = some c) : o = o' := by
  cases o <;> simp [closer?] at h <;> subst h <;> cases o' <;> simp [closer?] at h' <;> rfl

theorem IsResult.rise_eq {x : Symbol} (h : IsResult x) : x.rise = 0 :=
  Symbol.rise_of_plain h.not_bracket.1 h.not_bracket.2

/-- A symbol that is no bracket can stand anywhere. -/
theorem IsResult.suits {x : Symbol} (h : IsResult x) (t : Symbol) :
    x.suits t = true ∧ t.suits x = true := by
  simp [Symbol.suits, h.not_bracket]

/-- The right-hand sides of all productions are well bracketed, and stand between two symbols as
their results do. -/
theorem productions_bracketed : ∀ n : GrammarName, ∀ p ∈ n.grammar.productions,
    NestedBy Symbol.rise p.rhs ∧ p.rhs.IsChain (fun o c => o.suits c = true) ∧ p.rhs ≠ [] ∧
      (∀ c ∈ p.rhs.head?, c.isCloser = false) ∧ ∀ o ∈ p.rhs.getLast?, o.closer? = none := by
  intro n
  cases n <;> decide +kernel

theorem Reduces.wellBracketed {a b : List Symbol} (h : Reduces a b) (hb : WellBracketed b) :
    WellBracketed a := by
  obtain ⟨n, p, hp, u, v, rfl, rfl⟩ := h
  obtain ⟨hnested, hchain, hne, hhead, hlast⟩ := productions_bracketed n p hp
  refine ⟨(nestedBy_replace hnested (IsResult.rise_eq ⟨n, p, hp, rfl⟩)).2 hb.nested, ?_⟩
  obtain ⟨hu, hv, -⟩ := List.isChain_append.1 hb.suited
  rw [List.append_assoc]
  refine List.isChain_append.2 ⟨hu, List.isChain_append.2 ⟨hchain, hv.tail, ?_⟩, ?_⟩
  · intro o ho c _
    simp [Symbol.suits, hlast o ho]
  · intro o _ c hc
    rw [List.head?_append_of_ne_nil _ hne] at hc
    simp [Symbol.suits, hhead c hc]

theorem ReducesTo.wellBracketed {a b : List Symbol} (h : ReducesTo a b) (hb : WellBracketed b) :
    WellBracketed a := by
  induction h using ReflTransGen.head_induction_on with
  | refl => exact hb
  | head hstep _ ih => exact hstep.wellBracketed ih

/-- **What a result derives is well bracketed.** -/
theorem Derives.wellBracketed {x : Symbol} {st : List Symbol} (h : Derives x st)
    (hx : IsResult x) : WellBracketed st :=
  ReducesTo.wellBracketed h ⟨nestedBy_singleton hx.rise_eq, .singleton x⟩

/-- A part that is derived from a result can be replaced by it. -/
theorem WellBracketed.replace {u m v : List Symbol} {x : Symbol}
    (h : WellBracketed (u ++ m ++ v)) (hm : Derives x m) (hx : IsResult x) :
    WellBracketed (u ++ x :: v) := by
  refine ⟨(nestedBy_replace (hm.wellBracketed hx).nested hx.rise_eq).1 h.nested, ?_⟩
  obtain ⟨hum, hv, -⟩ := List.isChain_append.1 h.suited
  refine List.isChain_append.2 ⟨(List.isChain_append.1 hum).1, ?_, ?_⟩
  · exact List.isChain_cons.2 ⟨fun c _ => (hx.suits c).1, hv⟩
  · intro o _ c hc
    obtain rfl : x = c := by simpa using hc
    exact (hx.suits o).2

end BrightLint
