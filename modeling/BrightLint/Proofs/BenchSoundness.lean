import BrightLint.Parsing.Bench
import BrightLint.Proofs.Derivation

/-!
What the bench can do to a statement. Each part that is reduced stands between two signed bounds; as
long as these are not negative, the part is replaced by one symbol that derives it and the rest of
the statement stays as it is.

A part that starts at the front is the whole statement, so the first symbol of a statement is
replaced only together with all the others. This is what `Bench.check_spec` comes to: a check that
ends well has reduced the whole statement to the symbol that it gives, or it gives the symbol that
the statement started with.

* `Bench.Stable`: the bounds that a bench remembers are not negative
* `Bench.reducePart_spec`: one part
* `Bench.Scanned`: what is known in the course of a scan
* `Bench.check_spec`: a whole statement
-/

namespace BrightLint

/-! ### Replacing a span -/

namespace Span

variable {α : Type}

theorem place_of_nonneg {n : Nat} {i : Int} (h : 0 ≤ i) : place n i = min i.toNat n := by
  rw [place, if_neg (by omega)]

theorem length_between_le (lo : Int) {hi : Int} (h : 0 ≤ hi) (xs : List α) :
    (between lo hi xs).length ≤ hi.toNat := by
  rw [between, place_of_nonneg h]
  simp only [List.length_take, List.length_drop]
  omega

theorem between_whole (xs : List α) : between 0 xs.length xs = xs := by
  simp [between, place_of_nonneg]

theorem set_append {u v : List α} {y : α} (x : α) : set u.length x (u ++ y :: v) = u ++ x :: v := by
  have hneg : ¬ (u.length : Int) < 0 := by omega
  have hidx : index? (u ++ y :: v).length u.length = some u.length := by
    have hlt : (u.length : Int) < (u ++ y :: v).length := by
      rw [List.length_append, List.length_cons]
      omega
    simp only [index?, if_neg hneg]
    rw [if_pos ⟨by omega, hlt⟩, Int.toNat_natCast]
  rw [Span.set, hidx]
  simp

theorem cut_append {u m v : List α} {hi : Int}
    (h : place (u ++ m ++ v).length hi = (u ++ m).length) :
    cut u.length hi (u ++ m ++ v) = u ++ v := by
  rw [cut, h, place_ofNat (by simp)]
  split
  · rw [List.drop_left, List.append_assoc, List.take_left]
  · have hm : m = [] := by
      rw [← List.length_eq_zero_iff]
      simp at *
      omega
    simp [hm]

/-- A span that starts inside a list as a piece of the list. -/
theorem eq_append_between {start closing : Int} {xs : List α} (hs : 0 ≤ start)
    (hne : between start closing xs ≠ []) :
    ∃ u v, xs = u ++ between start closing xs ++ v ∧ u.length = start.toNat ∧
      place xs.length closing = (u ++ between start closing xs).length := by
  obtain ⟨a, rfl⟩ : ∃ a : Nat, start = a := ⟨start.toNat, by omega⟩
  have hb := place_le xs.length closing
  have hpos := List.length_pos_iff.2 hne
  have hplace := place_of_nonneg (n := xs.length) hs
  rw [Int.toNat_natCast] at hplace
  simp only [between, hplace, List.length_take, List.length_drop] at hpos
  have ha : min a xs.length = a := by omega
  have hbet : between a closing xs = (xs.drop a).take (place xs.length closing - a) := by
    rw [between, hplace, ha]
  have hdrop : xs.drop (place xs.length closing) =
      (xs.drop a).drop (place xs.length closing - a) := by
    rw [List.drop_drop]
    congr 1
    omega
  refine ⟨xs.take a, xs.drop (place xs.length closing), ?_, by simp; omega, ?_⟩
  · rw [hbet, List.append_assoc, hdrop, List.take_append_drop, List.take_append_drop]
  · rw [hbet]
    simp
    omega

/-- Setting the first item of a span and removing the others puts the item in place of the span. -/
theorem cut_set {start closing : Int} {xs : List α} (hs : 0 ≤ start)
    (hne : between start closing xs ≠ []) (x : α) :
    ∃ u v, xs = u ++ between start closing xs ++ v ∧ u.length = start.toNat ∧
      cut (start + 1) closing (set start x xs) = u ++ x :: v := by
  obtain ⟨u, v, hxs, hu, hplace⟩ := eq_append_between hs hne
  refine ⟨u, v, hxs, hu, ?_⟩
  have hstart : start = (u.length : Int) := by omega
  obtain ⟨y, m, hm⟩ := List.exists_cons_of_ne_nil hne
  rw [hm] at hxs hplace
  have hset : set start x xs = (u ++ [x]) ++ m ++ v := by
    rw [hxs, hstart, List.append_assoc, List.cons_append, set_append]
    simp
  have hnext : start + 1 = ((u ++ [x]).length : Int) := by simp [hstart]
  rw [hset, hnext, cut_append]
  · simp
  · rw [← hset, length_set, hplace]
    simp

theorem mem_of_get? {i : Int} {x : α} {xs : List α} (h : get? i xs = some x) : x ∈ xs := by
  obtain ⟨j, -, hj⟩ := Option.bind_eq_some_iff.1 h
  exact List.mem_of_getElem? hj

end Span

/-! ### One part -/

/-- A list that was reduced to the end was not empty. -/
theorem ne_nil_of_done {n : GrammarName} {st : List Symbol}
    (h : (reduceStatement n st).done = true) : st ≠ [] := by
  rintro rfl
  have hnone : n.grammar.run [] = [] := by
    rw [Grammar.run_eq_nil_iff, Grammar.reduce?, List.findSome?_eq_none_iff]
    exact fun _ _ => rfl
  have hidle : settle n [].reverse = ⟨[], [], n, false⟩ := settle_of_idle hnone
  rw [reduceStatement, hidle] at h
  cases h

/-- No production gives a bracket. -/
theorem IsResult.not_bracket {x : Symbol} (h : IsResult x) :
    x.closer? = none ∧ x.isCloser = false := by
  have hall : ∀ n : GrammarName, ∀ p ∈ n.grammar.productions,
      p.result.closer? = none ∧ p.result.isCloser = false := by
    intro n
    cases n <;> decide +kernel
  obtain ⟨n, p, hp, rfl⟩ := h
  exact hall n p hp

namespace Bench

/-- The bounds that a bench remembers are not negative. -/
structure Stable (b : Bench) : Prop where
  openings : ∀ i ∈ b.openings, 0 ≤ i
  closing : 0 ≤ b.closing

theorem Stable.start_nonneg {b : Bench} (h : b.Stable) : 0 ≤ b.openings.headD 0 := by
  cases ho : b.openings with
  | nil => simp
  | cons i is => exact h.openings i (by simp [ho])

/-- What a part starts and ends with. -/
theorem exists_part {b : Bench} {x : Symbol} (hs : b.Stable) {closing : Int}
    (hc : closing = if b.openings.headD 0 = 0 then (b.tokens.length : Int) else b.closing)
    (hne : Span.between (b.openings.headD 0) closing b.tokens ≠ []) :
    ∃ u v, b.tokens = u ++ Span.between (b.openings.headD 0) closing b.tokens ++ v ∧
      Span.cut (b.openings.headD 0 + 1) closing (Span.set (b.openings.headD 0) x b.tokens) =
        u ++ x :: v ∧
      (u ≠ [] ∧ closing = b.closing ∧ 1 < b.tokens.length ∨ u = [] ∧ v = []) := by
  obtain ⟨u, v, htok, hu, hcut⟩ := Span.cut_set hs.start_nonneg hne x
  refine ⟨u, v, htok, hcut, ?_⟩
  by_cases h0 : b.openings.headD 0 = 0
  · -- the part is the whole statement
    right
    rw [if_pos h0] at hc
    rw [h0] at htok hu
    have hu0 : u = [] := List.eq_nil_of_length_eq_zero (by simpa using hu)
    rw [hc, Span.between_whole, hu0, List.nil_append] at htok
    exact ⟨hu0, by simpa using htok⟩
  · left
    have hlt := List.length_pos_iff.2 hne
    have hlen := congrArg List.length htok
    have hstart := hs.start_nonneg
    rw [List.length_append, List.length_append] at hlen
    exact ⟨List.ne_nil_of_length_pos (by omega), by rw [hc, if_neg h0], by omega⟩

/-- **One part is reduced**: a span of the statement becomes a symbol that derives it. The first
symbol of the statement stays, unless the whole statement is reduced. -/
theorem reducePart_spec {b b' : Bench} (hs : b.Stable) (h : b.reducePart = .ok () b') :
    b'.Stable ∧ ReducesTo b.tokens b'.tokens ∧
      (1 < b.tokens.length ∧ b'.tokens.head? = b.tokens.head? ∧ b.place - b.closing ≤ b'.place ∨
        ∃ x, b'.tokens = [x] ∧ IsResult x) := by
  unfold reducePart at h
  simp only at h
  generalize hc : (if b.openings.headD 0 = 0 then (b.tokens.length : Int) else b.closing) = closing
    at h
  generalize hr : reduceStatement b.grammar (Span.between (b.openings.headD 0) closing b.tokens) = r
    at h
  split at h
  · next x rest hdone hfinal =>
    cases h
    rw [← hr] at hdone hfinal
    obtain ⟨-, y, hy, hres⟩ := reduceStatement_of_done hdone
    rw [hy] at hfinal
    cases hfinal
    obtain ⟨u, v, htok, hcut, hshape⟩ := exists_part (x := x) hs hc.symm (ne_nil_of_done hdone)
    have hred := reducesTo_reduceStatement b.grammar
      (Span.between (b.openings.headD 0) closing b.tokens)
    rw [hy] at hred
    have hclosing : 0 ≤ closing := by
      rw [← hc]
      have := hs.closing
      split <;> omega
    refine ⟨⟨fun i hi => hs.openings i (List.mem_of_mem_tail hi), hclosing⟩, ?_, ?_⟩
    · simp only [hcut]
      conv_lhs => rw [htok]
      simpa using hred.append_both u v
    · simp only [hcut]
      rcases hshape with ⟨hu, hcl, hlong⟩ | ⟨rfl, rfl⟩
      · left
        refine ⟨hlong, ?_, ?_⟩
        · conv_rhs => rw [htok]
          obtain ⟨t, u, rfl⟩ := List.exists_cons_of_ne_nil hu
          rfl
        · have := Span.length_between_le (b.openings.headD 0 + 1) hclosing b.tokens
          omega
      · exact .inr ⟨x, rfl, hres⟩
  · cases h

/-! ### A scan -/

/-- What is known of the bench in the course of a scan. Once the whole statement has become one
symbol the place may be anything, but no bracket is left to look at. -/
structure Scanned (types : List Symbol) (b : Bench) : Prop where
  stable : b.Stable
  reduces : ReducesTo types b.tokens
  front : b.tokens.head? = types.head? ∧ 0 ≤ b.place ∨ ∃ x, b.tokens = [x] ∧ IsResult x

/-- A bracket is only found while the place is not negative. -/
theorem Scanned.of_bracket {types : List Symbol} {b : Bench} {t : Symbol} (h : b.Scanned types)
    (ht : Span.get? b.place b.tokens = some t) (hb : t.closer? ≠ none ∨ t.isCloser = true) :
    b.tokens.head? = types.head? ∧ 0 ≤ b.place := by
  rcases h.front with hfront | ⟨x, hx, hres⟩
  · exact hfront
  · exfalso
    have htx : t = x := by
      rw [hx] at ht
      simpa using Span.mem_of_get? ht
    obtain ⟨hopen, hclose⟩ := hres.not_bracket
    rw [htx] at hb
    simp [hopen, hclose] at hb

/-- **One symbol is looked at.** -/
theorem Scanned.visit {types : List Symbol} {b b' : Bench} (hs : b.Scanned types)
    (h : b.visit = .ok () b') : b'.Scanned types := by
  unfold Bench.visit at h
  split at h
  · cases h
  · next t ht =>
    split at h
    · next c hc =>
      -- a bracket opens: only the place moves, or a place that is not negative is remembered
      obtain ⟨hhead, hplace⟩ := hs.of_bracket ht (.inl (by simp [hc]))
      split at h
      · cases h
      · split at h
        · cases h
          exact ⟨⟨hs.stable.1, hs.stable.2⟩, hs.reduces, .inl ⟨hhead, by simp only; omega⟩⟩
        · split at h
          · cases h
          · split at h
            · cases h
              exact ⟨⟨hs.stable.1, hs.stable.2⟩, hs.reduces, .inl ⟨hhead, by simp only; omega⟩⟩
            · cases h
              refine ⟨⟨?_, hs.stable.2⟩, hs.reduces, .inl ⟨hhead, hplace⟩⟩
              intro i hi
              rcases List.mem_cons.1 hi with rfl | hi
              · omega
              · exact hs.stable.1 i hi
    · split at h
      · next hc =>
        -- a bracket closes
        obtain ⟨hhead, hplace⟩ := hs.of_bracket ht (.inr hc)
        have hclosed : Stable { b with closing := b.place } := ⟨hs.stable.1, hplace⟩
        obtain ⟨hst, hred, hshape⟩ := reducePart_spec hclosed h
        refine ⟨hst, hs.reduces.trans hred, hshape.imp_left ?_⟩
        rintro ⟨-, hkeep, hback⟩
        simp only at hback
        exact ⟨hkeep.trans hhead, by omega⟩
      · cases h
        exact hs

/-- **All symbols are looked at**, one after the other. -/
theorem Scanned.scan {types : List Symbol} {b b' : Bench} (hs : b.Scanned types)
    (h : b.scan = .ok () b') : b'.Scanned types := by
  fun_induction Bench.scan b with
  | case1 b hp f b₁ hv => cases h
  | case2 b hp b₁ hv ih =>
    have hvisit := hs.visit hv
    refine ih ⟨⟨hvisit.stable.1, hvisit.stable.2⟩, hvisit.reduces, hvisit.front.imp_left ?_⟩ h
    rintro ⟨hhead, hplace⟩
    exact ⟨hhead, by simp only; omega⟩
  | case3 b hp =>
    cases h
    exact hs

/-- **A statement is checked**: the symbol that it comes to derives it and is all that is left of
it, unless it is the first symbol of the statement. -/
theorem check_spec {b b' : Bench} {types : List Symbol} {x : Option Symbol} (hs : b.Stable)
    (h : b.check types = .ok x b') :
    b'.Stable ∧ (types = [] ∧ x = none ∧ b'.tokens = [] ∨
      ∃ y, x = some y ∧ (types.head? = some y ∨ b'.tokens = [y] ∧ Derives y types)) := by
  unfold check at h
  simp only at h
  split at h
  · next hnil =>
    cases h
    rw [List.isEmpty_iff] at hnil
    exact ⟨⟨hs.1, hs.2⟩, .inl ⟨hnil, rfl, hnil⟩⟩
  · next hne =>
    rw [List.isEmpty_iff] at hne
    split at h
    · cases h
    · next b₁ hscan =>
      have hlaid : Scanned types { b with tokens := types, steps := [], place := 0 } :=
        ⟨⟨hs.1, hs.2⟩, .refl, .inl ⟨rfl, Int.le_refl 0⟩⟩
      have hscanned := hlaid.scan hscan
      split at h
      · cases h
      · next b₂ hpart =>
        cases h
        obtain ⟨hst, hred, hshape⟩ := reducePart_spec hscanned.stable hpart
        refine ⟨hst, .inr ?_⟩
        rcases hshape with ⟨hlong, hkeep, -⟩ | ⟨y, hy, -⟩
        · -- the front has stayed through the scan as well, since more than one symbol was left
          rcases hscanned.front with ⟨hhead, -⟩ | ⟨y, hy, -⟩
          · obtain ⟨t, ts, rfl⟩ := List.exists_cons_of_ne_nil hne
            exact ⟨t, hkeep.trans hhead, .inl rfl⟩
          · simp [hy] at hlong
        · refine ⟨y, by rw [hy]; rfl, .inr ⟨hy, ?_⟩⟩
          have hder := hscanned.reduces.trans hred
          rwa [hy] at hder

end Bench

end BrightLint
