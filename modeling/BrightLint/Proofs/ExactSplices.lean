import BrightLint.Text.Span
import BrightLint.Proofs.ReducerLoop
import Mathlib.Data.List.Find

/-!
Looking up and splicing at a place of a statement, counted from its end. A look-up compares the
symbols before the place with a right-hand side; what it compares, and what is then replaced, are
spans with bounds that count from the end. Such a bound is moved to the front if it lies before it,
and a bound of zero is the front and not the end, so that a span which reaches to the end needs a
form of its own. With these two cases looked after, a look-up finds exactly the right-hand sides
that end at the place.

* `Production.EndsBefore`: a right-hand side ends at a place
* `Span.fromEnd`, `Span.spliceFromEnd`: comparing and splicing with spans that are counted from the
  end
* `findAt?_eq_some_iff`, `findAt?_eq_none_iff`: what a look-up finds
* `Production.endsBefore_iff_rhs_eq`, `Span.spliceFromEnd_append`: spans find and replace the same
* `Reducer.splice_exact`: what a look-up finds, and what the statement and the record become
-/

namespace BrightLint

/-! ### Spans counted from the end -/

namespace Span

variable {α : Type}

/-- The last `n` items without the last `i`. -/
def fromEnd (n i : Nat) (xs : List α) : List α :=
  if i = 0 then onward (-n) xs else between (-n) (-i) xs

/-- A list without its last `n` items, except for the last `i`. -/
def cutFromEnd (n i : Nat) (xs : List α) : List α :=
  if i = 0 then cut (-n) xs.length xs else cut (-n) (-i) xs

/-- A list with an item put in at a bound. -/
def putAt (i : Int) (x : α) (xs : List α) : List α := between 0 i xs ++ x :: onward i xs

/-- A list in which the last `n` items, except for the last `i`, have become one: they are cut out,
and the one is put in before the last `i` of what is left. -/
def spliceFromEnd (n i : Nat) (x : α) (xs : List α) : List α :=
  let rest := cutFromEnd n i xs
  putAt (rest.length - i) x rest

/-- A bound that counts from the end, and is not the end, is moved to the front if need be. -/
theorem place_neg {n : Nat} (hn : 0 < n) (len : Nat) : place len (-(n : Int)) = len - n := by
  rw [place, if_pos (by omega)]
  omega

theorem fromEnd_eq {n : Nat} (hn : 0 < n) (i : Nat) (xs : List α) :
    fromEnd n i xs = (xs.take (xs.length - i)).drop (xs.length - n) := by
  unfold fromEnd
  split
  · next hi => simp [onward, place_neg hn, hi]
  · next hi =>
    rw [between, place_neg hn, place_neg (by omega), List.drop_take]

theorem cutFromEnd_append {u m v : List α} (hm : m ≠ []) :
    cutFromEnd (m.length + v.length) v.length (u ++ m ++ v) = u ++ v := by
  have hpos := List.length_pos_iff.2 hm
  have hlen : (u ++ m ++ v).length = u.length + m.length + v.length := by
    simp only [List.length_append]
  have hlo : place (u ++ m ++ v).length (-((m.length + v.length : Nat) : Int)) = u.length := by
    rw [place_neg (by omega), hlen]
    omega
  have hcut : ∀ hi, place (u ++ m ++ v).length hi = (u ++ m).length →
      cut (-((m.length + v.length : Nat) : Int)) hi (u ++ m ++ v) = u ++ v := by
    intro hi hplace
    rw [cut, hlo, hplace, if_pos (by simpa using hpos), List.drop_left, List.append_assoc,
      List.take_left]
  unfold cutFromEnd
  split
  · next hv =>
    refine hcut _ ?_
    rw [place_ofNat (Nat.le_refl _), hlen, hv, List.length_append, Nat.add_zero]
  · next hv =>
    refine hcut _ ?_
    rw [place_neg (by omega), hlen, List.length_append, Nat.add_sub_cancel]

theorem putAt_append (u v : List α) (x : α) : putAt u.length x (u ++ v) = u ++ x :: v := by
  have hplace : place (u ++ v).length u.length = u.length := place_ofNat (by simp)
  have hzero : place (u ++ v).length 0 = 0 := place_ofNat (Nat.zero_le _)
  rw [putAt, between, onward, hplace, hzero, List.drop_zero, Nat.sub_zero, List.take_left,
    List.drop_left]

theorem spliceFromEnd_append {u m v : List α} (hm : m ≠ []) (x : α) :
    spliceFromEnd (m.length + v.length) v.length x (u ++ m ++ v) = u ++ x :: v := by
  have hbound : ((u ++ v).length - v.length : Int) = u.length := by
    rw [List.length_append]
    omega
  simp only [spliceFromEnd, cutFromEnd_append hm]
  rw [hbound, putAt_append]

end Span

/-! ### Right-hand sides at a place -/

namespace Production

/-- The right-hand side of a production ends before the last `i` symbols of a statement. -/
def EndsBefore (p : Production) (i : Nat) (st : List Symbol) : Prop :=
  ∃ u v, st = u ++ p.rhs ++ v ∧ v.length = i

variable {p : Production} {i : Nat} {st : List Symbol}

/-- There is no room for a right-hand side that is longer than what stands before the place. -/
theorem EndsBefore.length_le (h : p.EndsBefore i st) : p.rhs.length ≤ st.length - i := by
  obtain ⟨u, v, rfl, rfl⟩ := h
  simp only [List.length_append]
  omega

theorem endsBefore_iff_rhs_eq (hp : p.rhs ≠ []) :
    p.EndsBefore i st ↔ p.rhs = Span.fromEnd (p.rhs.length + i) i st := by
  have hpos := List.length_pos_iff.2 hp
  rw [Span.fromEnd_eq (by omega)]
  constructor
  · rintro ⟨u, v, rfl, rfl⟩
    have hleft : (u ++ p.rhs ++ v).length - v.length = (u ++ p.rhs).length := by
      rw [List.length_append, Nat.add_sub_cancel]
    have hfront : (u ++ p.rhs ++ v).length - (p.rhs.length + v.length) = u.length := by
      simp only [List.length_append]
      omega
    rw [hleft, hfront, List.take_left, List.drop_left]
  · intro h
    have hlen := congrArg List.length h
    simp only [List.length_drop, List.length_take] at hlen
    refine ⟨(st.take (st.length - i)).take (st.length - (p.rhs.length + i)),
      st.drop (st.length - i), ?_, ?_⟩
    · have hsplit := List.take_append_drop (st.length - i) st
      nth_rewrite 1 [← List.take_append_drop (st.length - (p.rhs.length + i))
        (st.take (st.length - i))] at hsplit
      rw [← h] at hsplit
      exact hsplit.symm
    · rw [List.length_drop]
      omega

theorem isSome_below?_iff (hp : p.rhs ≠ []) :
    (p.below? (st.reverse.drop i)).isSome = true ↔ p.EndsBefore i st := by
  simp only [Option.isSome_iff_exists, below?_eq_some_iff]
  constructor
  · rintro ⟨rest, h⟩
    have hlen := congrArg List.length h
    have hpos := List.length_pos_iff.2 hp
    simp only [List.length_drop, List.length_append, List.length_reverse] at hlen
    refine ⟨rest.reverse, (st.reverse.take i).reverse, ?_, ?_⟩
    · have hsplit := congrArg List.reverse (List.take_append_drop i st.reverse)
      rw [h, List.reverse_reverse] at hsplit
      simpa using hsplit.symm
    · simp only [List.length_reverse, List.length_take]
      omega
  · rintro ⟨u, v, rfl, rfl⟩
    refine ⟨u.reverse, ?_⟩
    rw [List.reverse_append, List.reverse_append, List.drop_left' (by simp)]

end Production

/-! ### Look-ups -/

section Lookup

variable {i : Nat} {ps : List Production} {p : Production} {st : List Symbol}

/-- A look-up goes through the productions in order. -/
theorem findAt?_eq_find? (i : Nat) (ps : List Production) (st : List Symbol) :
    findAt? i ps st = ps.find? fun p => (p.below? (st.reverse.drop i)).isSome := by
  unfold findAt? matchTop?
  induction ps with
  | nil => rfl
  | cons p ps ih =>
    rw [List.findSome?_cons, List.find?_cons]
    cases hb : p.below? (st.reverse.drop i) with
    | none => simpa using ih
    | some rest => rfl

/-- **What a look-up finds**: the first production whose right-hand side ends at the place. -/
theorem findAt?_eq_some_iff (hps : ∀ p ∈ ps, p.rhs ≠ []) :
    findAt? i ps st = some p ↔
      ∃ qs rs, ps = qs ++ p :: rs ∧ p.EndsBefore i st ∧ ∀ q ∈ qs, ¬ q.EndsBefore i st := by
  rw [findAt?_eq_find?, List.find?_eq_some_iff_append]
  constructor
  · rintro ⟨hp, qs, rs, rfl, hqs⟩
    refine ⟨qs, rs, rfl, (Production.isSome_below?_iff (hps p (by simp))).1 hp, fun q hq h => ?_⟩
    have hfalse := hqs q hq
    rw [(Production.isSome_below?_iff (hps q (by simp [hq]))).2 h] at hfalse
    cases hfalse
  · rintro ⟨qs, rs, rfl, hp, hqs⟩
    refine ⟨(Production.isSome_below?_iff (hps p (by simp))).2 hp, qs, rs, rfl, fun q hq => ?_⟩
    rw [Bool.not_eq_true', ← Bool.not_eq_true,
      Production.isSome_below?_iff (hps q (by simp [hq]))]
    exact hqs q hq

theorem findAt?_eq_none_iff (hps : ∀ p ∈ ps, p.rhs ≠ []) :
    findAt? i ps st = none ↔ ∀ p ∈ ps, ¬ p.EndsBefore i st := by
  rw [findAt?_eq_find?, List.find?_eq_none]
  exact forall₂_congr fun p hp => not_congr (Production.isSome_below?_iff (hps p hp))

/-- A look-up with spans. -/
theorem findAt?_eq_find?_fromEnd (hps : ∀ p ∈ ps, p.rhs ≠ []) :
    findAt? i ps st = ps.find? fun p => p.rhs == Span.fromEnd (p.rhs.length + i) i st := by
  rw [findAt?_eq_find?]
  refine List.find?_congr fun p hp => ?_
  rw [Bool.eq_iff_iff, Production.isSome_below?_iff (hps p hp),
    Production.endsBefore_iff_rhs_eq (hps p hp), beq_iff_eq]

/-- **A splice** replaces the right-hand side that ends at the place, and nothing else. -/
theorem spliceAt_append (p : Production) (u v : List Symbol) :
    spliceAt v.length p (u ++ p.rhs ++ v) = u ++ p.result :: v := by
  have hleft : (u ++ p.rhs ++ v).length - v.length = (u ++ p.rhs).length := by
    rw [List.length_append, Nat.add_sub_cancel]
  rw [spliceAt, hleft, List.drop_left, List.length_append, Nat.add_sub_cancel, List.append_assoc,
    List.take_left]

end Lookup

namespace Reducer

/-- **Look-ups and splices are exact.** Whatever the statement, the place and the productions, a
look-up finds the first production whose right-hand side ends at the place, and nothing if there is
none; one that is longer than what stands before the place never does. It comes to the same to
compare each right-hand side with a span that is counted from the end. The splice then puts the
result in place of the right-hand side, with spans as without, and the list that comes of it is the
statement from then on, and the one list that is added to the record. -/
theorem splice_exact (s : Reducer) (i : Nat) (ps : List Production)
    (hps : ∀ p ∈ ps, p.rhs ≠ []) :
    (∀ p, findAt? i ps s.statement = some p ↔
      ∃ qs rs, ps = qs ++ p :: rs ∧ p.EndsBefore i s.statement ∧
        ∀ q ∈ qs, ¬ q.EndsBefore i s.statement) ∧
    (findAt? i ps s.statement = none ↔ ∀ p ∈ ps, ¬ p.EndsBefore i s.statement) ∧
    (∀ p ∈ ps, s.statement.length - i < p.rhs.length → ¬ p.EndsBefore i s.statement) ∧
    (findAt? i ps s.statement =
      ps.find? fun p => p.rhs == Span.fromEnd (p.rhs.length + i) i s.statement) ∧
    ∀ p u v, findAt? i ps s.statement = some p → s.statement = u ++ p.rhs ++ v → v.length = i →
      spliceAt i p s.statement = u ++ p.result :: v ∧
      spliceAt i p s.statement =
        Span.spliceFromEnd (p.rhs.length + i) i p.result s.statement ∧
      (s.replace (spliceAt i p s.statement)).statement = u ++ p.result :: v ∧
      (s.replace (spliceAt i p s.statement)).output =
        s.output ++ [⟨s.grammar, u ++ p.result :: v⟩] ∧
      (s.join (spliceAt i p s.statement)).statement = u ++ p.result :: v ∧
      (s.join (spliceAt i p s.statement)).output =
        s.output ++ [⟨s.grammar, u ++ p.result :: v⟩] := by
  refine ⟨fun p => findAt?_eq_some_iff hps, findAt?_eq_none_iff hps, ?_,
    findAt?_eq_find?_fromEnd hps, ?_⟩
  · intro p _ hlong hends
    have := hends.length_le
    omega
  · rintro p u v hfound hst rfl
    obtain ⟨qs, rs, rfl, -⟩ := (findAt?_eq_some_iff hps).1 hfound
    have hsplice : spliceAt v.length p s.statement = u ++ p.result :: v := by
      rw [hst, spliceAt_append]
    have hspans : Span.spliceFromEnd (p.rhs.length + v.length) v.length p.result s.statement =
        u ++ p.result :: v := by
      rw [hst, Span.spliceFromEnd_append (hps p (by simp))]
    simp only [hsplice, hspans, replace, join, and_self]

/-- A statement of four symbols. -/
def fourSymbols : Reducer where
  statement := [.ident, .equals, .value, .ident]
  grammar := .statement
  priorities := 7

/-- Two productions, of which the first is longer than what stands before the last symbol. -/
def twoProductions : List Production :=
  [⟨[.ident, .equals, .ident, .equals, .value], .assignment⟩,
    ⟨[.ident, .equals, .value], .assignment⟩]

theorem splice_exact_fourSymbols :
    (∀ p ∈ twoProductions, p.rhs ≠ []) ∧
      findAt? 1 twoProductions fourSymbols.statement =
        some ⟨[.ident, .equals, .value], .assignment⟩ ∧
      (fourSymbols.replace (spliceAt 1 ⟨[.ident, .equals, .value], .assignment⟩
        fourSymbols.statement)).output = [⟨.statement, [.assignment, .ident]⟩] := by
  have hps : ∀ p ∈ twoProductions, p.rhs ≠ [] := by decide
  have hfound : findAt? 1 twoProductions fourSymbols.statement =
      some ⟨[.ident, .equals, .value], .assignment⟩ := by decide
  obtain ⟨-, -, -, -, hsplice⟩ := splice_exact fourSymbols 1 twoProductions hps
  exact ⟨hps, hfound, (hsplice _ [] [.ident] hfound rfl rfl).2.2.2.1⟩

end Reducer

end BrightLint
