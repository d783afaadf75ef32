import BrightLint.Parsing.Run
import BrightLint.Proofs.Nesting

/-!
How the check of a statement can fail. A statement is looked at from left to right; at each moment
it is divided into the symbols before the place and those ahead (`Bench.Traced`). The brackets that
are remembered are no more than those that are open before the place. They can be fewer: a bracket
that encloses two symbols is passed over even if the first of these is a bracket itself, as in the
array of an empty array, and the closing bracket that is left over is then taken for the end of the
whole statement. If the rest of the statement makes sense nevertheless, the place ends up in front
of it, where no symbol stands.

* `Bench.reducePart_ok_inv`: what a part that is reduced leaves behind
* `Bench.Traced`: where the place is, and what is open there
* `Bench.Traced.visit`: one look
* `Bench.Followed.scan_ok`, `Bench.Followed.scan_error`: all looks
* `Parsing.outcome_cases`: what the check of any statement comes to
-/

namespace BrightLint

/-! ### Symbols ahead of a place -/

namespace Span

variable {α : Type}

theorem get?_ofNat (i : Nat) (xs : List α) : get? (i : Int) xs = xs[i]? := by
  have hneg : ¬ (i : Int) < 0 := by omega
  simp only [get?, index?, if_neg hneg]
  by_cases hi : (0 : Int) ≤ i ∧ (i : Int) < xs.length
  · rw [if_pos hi, Option.bind_some, Int.toNat_natCast]
  · rw [if_neg hi, Option.bind_none, List.getElem?_eq_none (by omega)]

theorem get?_ahead {u v : List α} {i : Int} (k : Nat) (hi : i = u.length + k) :
    get? i (u ++ v) = v[k]? := by
  obtain rfl : i = ((u.length + k : Nat) : Int) := by omega
  rw [get?_ofNat, List.getElem?_append_right (by omega), Nat.add_sub_cancel_left]

theorem length_between_succ {lo : Int} (hlo : 0 ≤ lo) (hi : Int) (xs : List α) :
    (between (lo + 1) hi xs).length = (between lo hi xs).length - 1 := by
  have hle := place_le xs.length hi
  simp only [between, place_of_nonneg hlo, place_of_nonneg (Int.le_add_one hlo), List.length_take,
    List.length_drop]
  omega

end Span

namespace Bench

/-! ### One part -/

/-- The bound at which the part ends that is reduced next. -/
def bound (b : Bench) : Int :=
  if b.openings.headD 0 = 0 then (b.tokens.length : Int) else b.closing

/-- The part that is reduced next. -/
def nextPart (b : Bench) : List Symbol := Span.between (b.openings.headD 0) b.bound b.tokens

/-- **What a part that is reduced leaves behind.** -/
theorem reducePart_ok_inv {b b' : Bench} (h : b.reducePart = .ok () b') :
    ∃ x, Derives x b.nextPart ∧ IsResult x ∧ b.nextPart ≠ [] ∧
      b'.tokens = Span.cut (b.openings.headD 0 + 1) b.bound
        (Span.set (b.openings.headD 0) x b.tokens) ∧
      b'.place = b.place - (Span.between (b.openings.headD 0 + 1) b.bound b.tokens).length ∧
      b'.openings = b.openings.tail := by
  unfold reducePart at h
  simp only at h
  split at h
  · next x rest hdone hfinal =>
    cases h
    obtain ⟨-, y, hy, hres⟩ := reduceStatement_of_done hdone
    rw [hy] at hfinal
    cases hfinal
    have hder : ReducesTo b.nextPart (reduceStatement b.grammar b.nextPart).final :=
      reducesTo_reduceStatement b.grammar b.nextPart
    have hfinal : (reduceStatement b.grammar b.nextPart).final = [x] := hy
    rw [hfinal] at hder
    exact ⟨x, hder, hres, ne_nil_of_done hdone, rfl, rfl, rfl⟩
  · cases h

theorem reducePart_error {b b' : Bench} {f : Fault} (h : b.reducePart = .error f b') :
    f = .unparsed .statement := by
  unfold reducePart at h
  simp only at h
  split at h <;> cases h
  rfl

/-- Where no bracket is remembered, the whole statement becomes one symbol. -/
theorem reducePart_whole {b b' : Bench} (hstart : b.openings.headD 0 = 0)
    (h : b.reducePart = .ok () b') :
    ∃ x, b'.tokens = [x] ∧ Derives x b.tokens ∧ IsResult x ∧ b'.openings = b.openings.tail := by
  obtain ⟨x, hder, hres, hne, htok, -, hopen⟩ := reducePart_ok_inv h
  rw [nextPart, bound, if_pos hstart, hstart, Span.between_whole] at hder hne
  rw [bound, if_pos hstart, hstart] at htok
  obtain ⟨u, v, hxs, hu, hcut⟩ := Span.cut_set (Int.le_refl 0)
    (show Span.between 0 (b.tokens.length : Int) b.tokens ≠ [] by rwa [Span.between_whole]) x
  rw [Span.between_whole] at hxs
  have hlen := congrArg List.length hxs
  rw [List.length_append, List.length_append] at hlen
  have hnil : u = [] ∧ v = [] := by
    constructor <;> exact List.eq_nil_of_length_eq_zero (by omega)
  rw [htok, hcut, hnil.1, hnil.2]
  exact ⟨x, rfl, hder, hres, hopen⟩

/-- Where a bracket is remembered, what stands between it and the place becomes one symbol. -/
theorem reducePart_inner {b b' : Bench} {u v : List Symbol} {k : Int} {ks : List Int}
    (htok : b.tokens = u ++ v) (hclosing : b.closing = u.length) (hopen : b.openings = k :: ks)
    (hk : 0 < k) (h : b.reducePart = .ok () b') :
    ∃ w m x, u = w ++ m ∧ Derives x m ∧ IsResult x ∧ b'.tokens = w ++ x :: v ∧
      b'.place = b.place - (m.length - 1 : Nat) ∧ m ≠ [] ∧ b'.openings = ks := by
  obtain ⟨x, hder, hres, hne, htok', hplace, htail⟩ := reducePart_ok_inv h
  have hstart : b.openings.headD 0 = k := by rw [hopen]; rfl
  have hbound : b.bound = u.length := by rw [bound, hstart, if_neg (by omega), hclosing]
  rw [nextPart, hstart, hbound] at hder hne
  rw [hstart, hbound] at htok' hplace
  obtain ⟨w, v', hxs, hw, hcut⟩ := Span.cut_set (by omega) hne x
  rw [htok'] at *
  rw [Span.length_between_succ (by omega)] at hplace
  -- the part ends where the symbols before the place end
  have hends : Span.place b.tokens.length u.length = u.length := by
    rw [htok]
    exact Span.place_ofNat (by simp)
  have hmlen : (Span.between k u.length b.tokens).length = u.length - w.length := by
    rw [Span.between, hends, Span.place_of_nonneg (by omega), List.length_take, List.length_drop]
    have hle : u.length ≤ b.tokens.length := by simp [htok]
    omega
  have hmpos := List.length_pos_iff.2 hne
  have hsplit : w ++ Span.between k u.length b.tokens = u ∧ v' = v := by
    refine List.append_inj (hxs.symm.trans htok) ?_
    rw [List.length_append]
    omega
  refine ⟨w, _, x, hsplit.1.symm, hder, hres, by rw [hcut, hsplit.2], hplace, hne, ?_⟩
  rw [htail, hopen]
  rfl

/-! ### One look -/

section Visit

variable {b : Bench} {u v : List Symbol} {t c : Symbol}

theorem get?_place (htok : b.tokens = u ++ t :: v) (hplace : b.place = u.length) :
    Span.get? b.place b.tokens = some t := by
  rw [htok, Span.get?_ahead 0 (by simp [hplace])]
  rfl

/-- What a look at a bracket that opens can do. -/
theorem visit_of_opener (htok : b.tokens = u ++ t :: v) (hplace : b.place = u.length)
    (ht : t.closer? = some c) :
    b.visit = .error (.unparsed .statement) b ∨
      (∃ w, v = c :: w ∧ b.visit = .ok () { b with place := b.place + 1 }) ∨
      (∃ y w, v = y :: c :: w ∧ y ≠ c ∧ b.visit = .ok () { b with place := b.place + 2 }) ∨
      b.visit = .ok () { b with openings := (b.place + 1) :: b.openings } := by
  have h₁ : Span.get? (b.place + 1) b.tokens = v[0]? := by
    rw [htok, Span.get?_ahead 1 (by simp [hplace])]
    rfl
  have h₂ : Span.get? (b.place + 2) b.tokens = v[1]? := by
    rw [htok, Span.get?_ahead 2 (by simp [hplace])]
    rfl
  unfold visit
  simp only [get?_place htok hplace, ht, h₁, h₂]
  rcases v with _ | ⟨y, _ | ⟨z, v⟩⟩
  · exact .inl rfl
  · by_cases hy : y = c
    · exact .inr (.inl ⟨[], by rw [hy], if_pos hy⟩)
    · exact .inl (if_neg hy)
  · by_cases hy : y = c
    · exact .inr (.inl ⟨z :: v, by rw [hy], if_pos hy⟩)
    · by_cases hz : z = c
      · exact .inr (.inr (.inl ⟨y, v, by rw [hz], hy, (if_neg hy).trans (if_pos hz)⟩))
      · exact .inr (.inr (.inr ((if_neg hy).trans (if_neg hz))))

theorem visit_of_isCloser (htok : b.tokens = u ++ t :: v) (hplace : b.place = u.length)
    (ho : t.closer? = none) (ht : t.isCloser = true) :
    b.visit = reducePart { b with closing := b.place } := by
  unfold visit
  simp only [get?_place htok hplace, ho, ht, if_true]

theorem visit_of_plain (htok : Span.get? b.place b.tokens = some t) (ho : t.closer? = none)
    (ht : t.isCloser = false) : b.visit = .ok () b := by
  unfold visit
  simp [htok, ho, ht]

end Visit

/-! ### Where the place is -/

/-- Two brackets of one kind open in a row, and the second is closed at once. -/
def Doubled (st : List Symbol) : Prop := ∃ o c, o.closer? = some c ∧ [o, o, c] <:+: st

/-- The symbols `u` stand before the place and `v` ahead of it. Of the brackets that are remembered,
those of `ks` are open, and below them there is nothing but the start of the statement. -/
structure Traced (types : List Symbol) (b : Bench) (u v : List Symbol) (ks zs : List Int) :
    Prop where
  tokens : b.tokens = u ++ v
  place : b.place = u.length
  ahead : v <:+ types
  bracketed : WellBracketed (u ++ v)
  openings : b.openings = ks ++ zs
  remembered : ∀ k ∈ ks, 0 < k
  rooted : ∀ k ∈ zs, k = 0
  le_height : ks.length ≤ heightBy Symbol.rise u
  height_le : ¬ Doubled types → heightBy Symbol.rise u ≤ ks.length

/-- The whole statement has become one symbol too early. -/
structure Collapsed (types : List Symbol) (b : Bench) : Prop where
  doubled : Doubled types
  single : ∃ x, b.tokens = [x] ∧ IsResult x
  rooted : ∀ k ∈ b.openings, k = 0

theorem headD_of_rooted {zs : List Int} (h : ∀ k ∈ zs, k = 0) : zs.headD 0 = 0 := by
  cases zs with
  | nil => rfl
  | cons k zs => exact h k List.mem_cons_self

section Traced

variable {types u v : List Symbol} {b b' : Bench} {ks zs : List Int} {t : Symbol}

/-- The place moves on over symbols `m` that leave as much open as before. -/
theorem Traced.move {m w : List Symbol} (h : b.Traced types u (m ++ w) ks zs)
    (hle : 0 ≤ heightBy Symbol.rise m) (hge : ¬ Doubled types → heightBy Symbol.rise m ≤ 0) :
    Traced types { b with place := b.place + m.length } (u ++ m) w ks zs where
  tokens := by simpa using h.tokens
  place := by simp [h.place]
  ahead := (List.suffix_append m w).trans h.ahead
  bracketed := by simpa using h.bracketed
  openings := h.openings
  remembered := h.remembered
  rooted := h.rooted
  le_height := by
    have := h.le_height
    rw [heightBy_append]
    omega
  height_le := fun hd => by
    have h₁ := h.height_le hd
    have h₂ := hge hd
    rw [heightBy_append]
    omega

/-- A bracket is remembered. -/
theorem Traced.remember {c : Symbol} (h : b.Traced types u (t :: v) ks zs)
    (ht : t.closer? = some c) :
    Traced types { b with openings := (b.place + 1) :: b.openings, place := b.place + 1 }
      (u ++ [t]) v ((b.place + 1) :: ks) zs where
  tokens := by simpa using h.tokens
  place := by simp [h.place]
  ahead := (List.suffix_cons t v).trans h.ahead
  bracketed := by simpa using h.bracketed
  openings := by simp [h.openings]
  remembered := by
    intro k hk
    rcases List.mem_cons.1 hk with rfl | hk
    · have := h.place
      omega
    · exact h.remembered k hk
  rooted := h.rooted
  le_height := by
    have := h.le_height
    simp [(Symbol.rise_of_closer? ht).1]
    omega
  height_le := fun hd => by
    have := h.height_le hd
    simp [(Symbol.rise_of_closer? ht).1]
    omega

/-- The latest bracket that is remembered is closed. -/
theorem Traced.close {k : Int} (h : b.Traced types u (t :: v) (k :: ks) zs)
    (ht : t.isCloser = true)
    (hok : reducePart { b with closing := b.place } = .ok () b') :
    ∃ w x, Traced types { b' with place := b'.place + 1 } (w ++ [x, t]) v ks zs := by
  have hk := h.remembered k List.mem_cons_self
  obtain ⟨w, m, x, rfl, hder, hres, htok, hplace, hne, hopen⟩ :=
    reducePart_inner (b := { b with closing := b.place }) h.tokens h.place h.openings hk hok
  have hm := (hder.wellBracketed hres).nested.closed
  have hpos := List.length_pos_iff.2 hne
  refine ⟨w, x, ?_⟩
  have hb := h.bracketed.replace hder hres
  exact {
    tokens := by simpa using htok
    place := by
      simp only [hplace, h.place, List.length_append, List.length_cons, List.length_nil]
      omega
    ahead := (List.suffix_cons t v).trans h.ahead
    bracketed := by simpa using hb
    openings := hopen
    remembered := fun i hi => h.remembered i (List.mem_cons_of_mem _ hi)
    rooted := h.rooted
    le_height := by
      have := h.le_height
      simp [hm, hres.rise_eq, Symbol.rise_of_isCloser ht] at this ⊢
      omega
    height_le := fun hd => by
      have := h.height_le hd
      simp [hm, hres.rise_eq, Symbol.rise_of_isCloser ht] at this ⊢
      omega }

/-- Nothing is remembered, and yet a bracket closes. -/
theorem Traced.collapse (h : b.Traced types u (t :: v) [] zs) (ht : t.isCloser = true)
    (hok : reducePart { b with closing := b.place } = .ok () b') : b'.Collapsed types := by
  have hroot : ∀ k ∈ b.openings, k = 0 := by simpa [h.openings] using h.rooted
  obtain ⟨x, htok, -, hres, hopen⟩ :=
    reducePart_whole (b := { b with closing := b.place }) (headD_of_rooted hroot) hok
  refine ⟨?_, ⟨x, htok, hres⟩, fun k hk => hroot k ?_⟩
  · -- otherwise nothing would be open before the bracket
    by_contra hd
    have hpos := h.bracketed.nested.pos_of_lower (Symbol.rise_of_isCloser ht)
    have hle := h.height_le hd
    rw [List.length_nil] at hle
    omega
  · rw [hopen] at hk
    exact List.mem_of_mem_tail hk

/-- A bracket that encloses a bracket is passed over only where brackets are doubled. -/
theorem Traced.doubled {y c : Symbol} {w : List Symbol}
    (h : b.Traced types u (t :: y :: c :: w) ks zs) (ht : t.closer? = some c)
    (hy : y.closer? ≠ none) : Doubled types := by
  obtain ⟨d, hd⟩ := Option.ne_none_iff_exists'.1 hy
  have hsuits : y.suits c = true := by
    have hchain := (List.isChain_append.1 h.bracketed.suited).2.1.tail
    exact (List.isChain_cons_cons.1 hchain).1
  obtain rfl : d = c := by
    simpa [Symbol.suits, (Symbol.rise_of_closer? ht).2.2, hd] using hsuits
  obtain rfl := Symbol.closer?_injective hd ht
  exact ⟨y, d, hd, List.IsInfix.trans ⟨[], w, rfl⟩ h.ahead.isInfix⟩

/-- **One look**: the place moves on, or else the statement has collapsed. -/
theorem Traced.visit (h : b.Traced types u (t :: v) ks zs) (hok : b.visit = .ok () b') :
    (∃ u' v' ks', Traced types { b' with place := b'.place + 1 } u' v' ks' zs) ∨
      b'.Collapsed types := by
  cases ho : t.closer? with
  | some c =>
    obtain ⟨hrise, hfall, hcloser⟩ := Symbol.rise_of_closer? ho
    rcases visit_of_opener h.tokens h.place ho with hv | ⟨w, rfl, hv⟩ | ⟨y, w, rfl, hy, hv⟩ | hv <;>
      rw [hv] at hok <;> cases hok
    · -- nothing is enclosed
      have hmove := Traced.move (m := [t, c]) h (by simp [hrise, hfall]) (by simp [hrise, hfall])
      exact .inl ⟨_, _, _, by simpa [Int.add_assoc] using hmove⟩
    · -- one symbol is enclosed, and it does not close a bracket
      have hrisey : 0 ≤ y.rise ∧ (¬ Doubled types → y.rise ≤ 0) := by
        cases hyo : y.closer? with
        | some d =>
          have hd := h.doubled ho (by simp [hyo])
          exact ⟨by simp [(Symbol.rise_of_closer? hyo).1], fun hnd => absurd hd hnd⟩
        | none =>
          have hyc : y.isCloser = false := by
            have hchain := (List.isChain_append.1 h.bracketed.suited).2.1
            have hsuits := (List.isChain_cons_cons.1 hchain).1
            simp only [Symbol.suits, ho, Option.all_some, Bool.or_eq_true, beq_iff_eq] at hsuits
            rcases hsuits with hsuits | rfl
            · simpa using hsuits
            · exact absurd rfl hy
          simp [Symbol.rise_of_plain hyo hyc]
      have hmove := Traced.move (m := [t, y, c]) h (by simp [hrise, hfall]; omega)
        (fun hd => by simp [hrise, hfall]; have := hrisey.2 hd; omega)
      exact .inl ⟨_, _, _, by simpa [Int.add_assoc] using hmove⟩
    · exact .inl ⟨_, _, _, h.remember ho⟩
  | none =>
    cases hc : t.isCloser with
    | true =>
      rw [visit_of_isCloser h.tokens h.place ho hc] at hok
      cases ks with
      | nil => exact .inr (h.collapse hc hok)
      | cons k ks =>
        obtain ⟨w, x, hnext⟩ := h.close hc hok
        exact .inl ⟨_, _, _, hnext⟩
    | false =>
      rw [visit_of_plain (get?_place h.tokens h.place) ho hc] at hok
      cases hok
      have hmove := Traced.move (m := [t]) h (by simp [Symbol.rise_of_plain ho hc])
        (by simp [Symbol.rise_of_plain ho hc])
      exact .inl ⟨_, _, _, by simpa using hmove⟩

theorem Traced.visit_error {f : Fault} (h : b.Traced types u (t :: v) ks zs)
    (herr : b.visit = .error f b') : f = .unparsed .statement := by
  cases ho : t.closer? with
  | some c =>
    rcases visit_of_opener h.tokens h.place ho with hv | ⟨w, -, hv⟩ | ⟨y, w, -, -, hv⟩ | hv <;>
      rw [hv] at herr <;> cases herr
    rfl
  | none =>
    cases hc : t.isCloser with
    | true =>
      rw [visit_of_isCloser h.tokens h.place ho hc] at herr
      exact reducePart_error herr
    | false =>
      rw [visit_of_plain (get?_place h.tokens h.place) ho hc] at herr
      cases herr

/-- A statement that has collapsed stays as it is. -/
theorem Collapsed.visit (h : b.Collapsed types) (hok : b.visit = .ok () b') : b' = b := by
  obtain ⟨x, hx, hres⟩ := h.single
  cases ht : Span.get? b.place b.tokens with
  | none =>
    unfold Bench.visit at hok
    rw [ht] at hok
    cases hok
  | some t =>
    obtain rfl : t = x := by
      rw [hx] at ht
      simpa using Span.mem_of_get? ht
    rw [visit_of_plain ht hres.not_bracket.1 hres.not_bracket.2] at hok
    cases hok
    rfl

end Traced

/-! ### All looks -/

/-- What is known of a statement in the course of a scan. -/
def Followed (types : List Symbol) (b : Bench) : Prop :=
  (∃ u v ks zs, b.Traced types u v ks zs) ∨ b.Collapsed types

section Followed

variable {types : List Symbol} {b b' : Bench}

theorem Traced.ahead_ne_nil {u v : List Symbol} {ks zs : List Int} (h : b.Traced types u v ks zs)
    (hp : b.place < b.tokens.length) : v ≠ [] := by
  rintro rfl
  have hlen := congrArg List.length h.tokens
  have := h.place
  simp at hlen
  omega

/-- At the end of a statement nothing is open. -/
theorem Followed.rooted_of_end (h : b.Followed types) (hp : ¬ b.place < b.tokens.length) :
    ∀ k ∈ b.openings, k = 0 := by
  rcases h with ⟨u, v, ks, zs, h⟩ | h
  · obtain rfl : v = [] := by
      by_contra hv
      have hlen := congrArg List.length h.tokens
      have hpos := List.length_pos_iff.2 hv
      have hplace := h.place
      rw [List.length_append] at hlen
      omega
    have hclosed := h.bracketed.nested.closed
    have hle := h.le_height
    rw [List.append_nil] at hclosed
    have hks : ks = [] := List.eq_nil_of_length_eq_zero (by omega)
    rw [h.openings, hks]
    exact h.rooted
  · exact h.rooted

/-- One look keeps what is known. -/
theorem Followed.visit (h : b.Followed types) (hp : b.place < b.tokens.length)
    (hok : b.visit = .ok () b') : Followed types { b' with place := b'.place + 1 } := by
  rcases h with ⟨u, v, ks, zs, h⟩ | h
  · obtain ⟨t, v, rfl⟩ := List.exists_cons_of_ne_nil (h.ahead_ne_nil hp)
    rcases h.visit hok with ⟨u', v', ks', hnext⟩ | hnext
    · exact .inl ⟨u', v', ks', zs, hnext⟩
    · exact .inr ⟨hnext.doubled, hnext.single, hnext.rooted⟩
  · obtain rfl := h.visit hok
    exact .inr ⟨h.doubled, h.single, h.rooted⟩

/-- **A scan that ends well** has no bracket left that is remembered. -/
theorem Followed.scan_ok (h : b.Followed types) (hok : b.scan = .ok () b') :
    ∀ k ∈ b'.openings, k = 0 := by
  fun_induction Bench.scan b with
  | case1 b hp f b₁ hv => cases hok
  | case2 b hp b₁ hv ih => exact ih (h.visit hp hv) hok
  | case3 b hp =>
    cases hok
    exact h.rooted_of_end hp

/-- **A scan that fails** has met code that cannot be reduced, unless brackets are doubled. -/
theorem Followed.scan_error {f : Fault} (h : b.Followed types) (herr : b.scan = .error f b') :
    f = .unparsed .statement ∨ Doubled types := by
  fun_induction Bench.scan b with
  | case1 b hp f₁ b₁ hv =>
    cases herr
    rcases h with ⟨u, v, ks, zs, h⟩ | h
    · obtain ⟨t, v, rfl⟩ := List.exists_cons_of_ne_nil (h.ahead_ne_nil hp)
      exact .inl (h.visit_error hv)
    · exact .inr h.doubled
  | case2 b hp b₁ hv ih => exact ih (h.visit hp hv) herr
  | case3 b hp => cases herr

end Followed

/-! ### Faults of a check -/

/-- A statement is laid on the bench. -/
def lay (b : Bench) (types : List Symbol) : Bench :=
  { b with tokens := types, steps := [], place := 0 }

section Faults

variable {types : List Symbol} {b b' : Bench} {f : Fault}

theorem check_nil : b.check [] = .ok none { b with tokens := [], steps := [] } := rfl

/-- What a check does: all symbols are looked at, and then the last part is reduced. -/
theorem check_cases (hne : types ≠ []) :
    (∃ f b₁, (b.lay types).scan = .error f b₁ ∧ b.check types = .error f b₁) ∨
      ∃ b₁, (b.lay types).scan = .ok () b₁ ∧
        ((∃ f b₂, b₁.reducePart = .error f b₂ ∧ b.check types = .error f b₂) ∨
          ∃ b₂, b₁.reducePart = .ok () b₂ ∧ b.check types = .ok b₂.tokens.head? b₂) := by
  unfold check
  simp only [List.isEmpty_iff, if_neg hne]
  cases hscan : (b.lay types).scan with
  | error f b₁ => exact .inl ⟨f, b₁, rfl, by rw [lay] at hscan; rw [hscan]⟩
  | ok u b₁ =>
    rw [lay] at hscan
    refine .inr ⟨b₁, rfl, ?_⟩
    rw [hscan]
    simp only
    cases hpart : b₁.reducePart with
    | error f b₂ => exact .inl ⟨f, b₂, rfl, rfl⟩
    | ok u b₂ => exact .inr ⟨b₂, rfl, rfl⟩

theorem Stable.scanned_lay (hs : b.Stable) (types : List Symbol) : (b.lay types).Scanned types :=
  ⟨⟨hs.1, hs.2⟩, .refl, .inl ⟨rfl, Int.le_refl 0⟩⟩

theorem followed_lay (hb : WellBracketed types) (hroot : ∀ k ∈ b.openings, k = 0) :
    (b.lay types).Followed types :=
  .inl ⟨[], types, [], b.openings,
    { tokens := rfl, place := rfl, ahead := List.suffix_rfl, bracketed := hb, openings := rfl,
      remembered := by simp, rooted := hroot, le_height := Int.le_refl 0,
      height_le := fun _ => Int.le_refl 0 }⟩

/-- No symbol stands at the place only if the whole statement has become one. -/
theorem Scanned.visit_error (hs : b.Scanned types) (hp : b.place < b.tokens.length)
    (h : b.visit = .error f b') :
    f = .unparsed .statement ∨
      f = .badIndex ∧ ∃ x, b'.tokens = [x] ∧ IsResult x ∧ Derives x types := by
  unfold Bench.visit at h
  split at h
  · next hnone =>
    cases h
    rcases hs.front with ⟨-, hplace⟩ | ⟨x, hx, hres⟩
    · -- a place that is not negative lies in the statement
      obtain ⟨i, hi⟩ := Int.eq_ofNat_of_zero_le hplace
      rw [hi, Span.get?_ofNat, List.getElem?_eq_none_iff] at hnone
      omega
    · refine .inr ⟨rfl, x, hx, hres, ?_⟩
      have hder := hs.reduces
      rwa [hx] at hder
  · left
    split at h
    · split at h
      · cases h; rfl
      · split at h
        · cases h
        · split at h
          · cases h; rfl
          · split at h <;> cases h
    · split at h
      · exact reducePart_error h
      · cases h

theorem Scanned.scan_error (hs : b.Scanned types) (h : b.scan = .error f b') :
    f = .unparsed .statement ∨
      f = .badIndex ∧ ∃ x, b'.tokens = [x] ∧ IsResult x ∧ Derives x types := by
  fun_induction Bench.scan b with
  | case1 b hp f₁ b₁ hv =>
    cases h
    exact hs.visit_error hp hv
  | case2 b hp b₁ hv ih =>
    have hvisit := hs.visit hv
    refine ih ⟨⟨hvisit.stable.1, hvisit.stable.2⟩, hvisit.reduces, hvisit.front.imp_left ?_⟩ h
    rintro ⟨hhead, hplace⟩
    exact ⟨hhead, by simp only; omega⟩
  | case3 b hp => cases h

/-- **A check that fails**: the statement cannot be reduced, or it was reduced too early. -/
theorem check_error (hs : b.Stable) (hroot : ∀ k ∈ b.openings, k = 0)
    (h : b.check types = .error f b') :
    f = .unparsed .statement ∨
      f = .badIndex ∧ Doubled types ∧ ∃ x, b'.tokens = [x] ∧ Derives x types := by
  have hne : types ≠ [] := by
    rintro rfl
    cases h
  rcases check_cases (b := b) hne with ⟨f', b₁, hscan, hcheck⟩ |
    ⟨b₁, hscan, ⟨f', b₂, hpart, hcheck⟩ | ⟨b₂, hpart, hcheck⟩⟩ <;> rw [hcheck] at h <;> cases h
  · rcases (hs.scanned_lay types).scan_error hscan with rfl | ⟨rfl, x, hx, hres, hder⟩
    · exact .inl rfl
    · have hfollowed := followed_lay (b := b) (hder.wellBracketed hres) hroot
      have hdoubled := (hfollowed.scan_error hscan).resolve_left (by simp)
      exact .inr ⟨rfl, hdoubled, x, hx, hder⟩
  · exact .inl (reducePart_error hpart)

end Faults

end Bench

namespace Parsing

/-- What the check of a statement comes to: the symbols that are added to the program, or a fault. -/
def outcome (s : Parsing) (types : List Symbol) : Except Fault (List Symbol) :=
  match checkStatement types s with
  | .ok () s' => .ok (s'.program.drop s.program.length)
  | .error f _ => .error f

section Outcome

variable {s : Parsing} {types : List Symbol} {b : Bench}

theorem outcome_of_ok {x : Option Symbol} (h : s.bench.check types = .ok x b) :
    s.outcome types = .ok x.toList := by
  unfold outcome checkStatement
  simp only [h]
  unfold record
  split <;> simp [note]

theorem outcome_of_error {f : Fault} (h : s.bench.check types = .error f b) :
    s.outcome types = .error f := by
  unfold outcome checkStatement
  simp only [h]

end Outcome

/-- **What the check of a statement comes to** on a bench that was not used before: it ends well, or
the statement cannot be reduced, or no symbol stands where one is looked for. The last happens only
to statements with doubled brackets which, as a whole, are derived from a single symbol. -/
theorem outcome_cases (types : List Symbol) :
    (∃ added, ({} : Parsing).outcome types = .ok added) ∨
      ({} : Parsing).outcome types = .error (.unparsed .statement) ∨
      ({} : Parsing).outcome types = .error .badIndex ∧ Bench.Doubled types ∧
        ∃ x, Derives x types := by
  have hstable : Bench.Stable {} := ⟨by simp, Int.le_refl 0⟩
  cases hcheck : ({} : Parsing).bench.check types with
  | ok x b => exact .inl ⟨_, outcome_of_ok hcheck⟩
  | error f b =>
    right
    rw [outcome_of_error hcheck]
    rcases Bench.check_error hstable (by simp) hcheck with rfl | ⟨rfl, hdoubled, x, -, hder⟩
    · exact .inl rfl
    · exact .inr ⟨rfl, hdoubled, x, hder⟩

/-- The call of a member of an array that holds an empty array. -/
def nestedArrayCall : List Symbol :=
  [.openSquare, .openSquare, .closeSquare, .closeSquare, .dot, .ident, .openParen, .closeParen]

/-- Not every check ends well or finds that the statement cannot be reduced. -/
theorem outcome_nestedArrayCall :
    ({} : Parsing).outcome nestedArrayCall = .error .badIndex := by
  decide +kernel

end Parsing

end BrightLint
