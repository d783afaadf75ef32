import BrightLint.Proofs.Acceptance
import BrightLint.Proofs.BenchTrace

/-!
What a statement leaves on the bench for the next one. Tokens, place and steps are laid anew for
each statement, but the grammar in use, the brackets that are remembered and the place where the
latest one closed stay.

Two benches that agree in all this except the last are `Alike`, and the same looks on alike benches
come to the same. The closing is read only in the end, and only if a bracket is still remembered
then; so it does not matter to a statement that is well bracketed.

* `Bench.Alike`: benches on which all looks come to the same
* `Bench.Alike.scan`, `Bench.Alike.check`: all looks, and a whole statement
* `Bench.Layered`: below the start of a statement nothing is remembered but starts of statements
* `Bench.Unmarked`: a bench on which earlier statements have left no mark
* `Parsing.outcome_independent_iff`: when earlier statements do not matter
-/

namespace BrightLint

namespace Bench

/-! ### Scanning by steps -/

section Scan

variable {b b' : Bench} {f : Fault}

theorem scan_of_end (hp : ¬ b.place < b.tokens.length) : b.scan = .ok () b := by
  rw [scan, dif_neg hp]

theorem scan_of_error (hp : b.place < b.tokens.length) (hv : b.visit = .error f b') :
    b.scan = .error f b' := by
  rw [scan, dif_pos hp]
  split <;> simp_all

theorem scan_of_ok (hp : b.place < b.tokens.length) (hv : b.visit = .ok () b') :
    b.scan = scan { b' with place := b'.place + 1 } := by
  rw [scan, dif_pos hp]
  split <;> simp_all

/-- The bench with a place that is remembered. -/
def remember (b : Bench) (k : Int) : Bench := { b with openings := k :: b.openings }

/-- A statement on the bench, at its end. -/
def layEnd (b : Bench) (types : List Symbol) : Bench :=
  { b with tokens := types, steps := [], place := types.length }

/-- Where no bracket is ahead, only the place moves. -/
theorem scan_of_plain {u v : List Symbol} (htok : b.tokens = u ++ v) (hplace : b.place = u.length)
    (hv : ∀ t ∈ v, t.closer? = none ∧ t.isCloser = false) :
    b.scan = .ok () { b with place := b.tokens.length } := by
  induction v generalizing b u with
  | nil =>
    rw [List.append_nil] at htok
    rw [scan_of_end (by rw [htok, hplace]; omega), htok, ← hplace, ← htok]
  | cons t v ih =>
    obtain ⟨hopen, hclose⟩ := hv t List.mem_cons_self
    have hp : b.place < b.tokens.length := by
      rw [htok, hplace, List.length_append, List.length_cons]
      omega
    rw [scan_of_ok hp (visit_of_plain (get?_place htok hplace) hopen hclose)]
    exact ih (b := { b with place := b.place + 1 }) (u := u ++ [t]) (by simp [htok])
      (by simp [hplace]) fun t ht => hv t (List.mem_cons_of_mem _ ht)

end Scan

/-! ### The part that is reduced -/

section Part

variable {b b' : Bench}

theorem reducePart_of_undone (h : (reduceStatement b.grammar b.nextPart).done = false) :
    ∃ b', b.reducePart = .error (.unparsed .statement) b' := by
  unfold nextPart bound at h
  unfold reducePart
  simp only [h]
  exact ⟨_, rfl⟩

theorem reducePart_of_done (h : (reduceStatement b.grammar b.nextPart).done = true) :
    ∃ b', b.reducePart = .ok () b' := by
  obtain ⟨-, x, hx, -⟩ := reduceStatement_of_done h
  unfold nextPart bound at h hx
  unfold reducePart
  simp only [h, hx]
  exact ⟨_, rfl⟩

/-- A part that ends before it starts cannot be reduced. -/
theorem reducePart_of_nil (h : b.nextPart = []) :
    ∃ b', b.reducePart = .error (.unparsed .statement) b' := by
  refine reducePart_of_undone ?_
  by_contra hdone
  exact ne_nil_of_done (by simpa using hdone) h

theorem nextPart_whole (hstart : b.openings.headD 0 = 0) : b.nextPart = b.tokens := by
  rw [nextPart, bound, if_pos hstart, hstart, Span.between_whole]

/-- A part inside the statement leaves the front as it is. -/
theorem reducePart_front (hstart : 0 < b.openings.headD 0) (h : b.reducePart = .ok () b') :
    b'.tokens.head? = b.tokens.head? := by
  obtain ⟨x, -, -, hne, htok, -, -⟩ := reducePart_ok_inv h
  obtain ⟨u, v, hxs, hu, hcut⟩ := Span.cut_set (by omega) hne x
  obtain ⟨t, u, rfl⟩ := List.exists_cons_of_ne_nil (List.ne_nil_of_length_pos (l := u) (by omega))
  rw [htok, hcut, hxs]
  rfl

end Part

/-! ### Benches that are alike -/

/-- Two benches on which all looks come to the same. Of brackets that are remembered the starts are
compared, as if there were starts of statements below. How the two closings are related is left
open. -/
structure Alike (C : Int → Int → Prop) (b b' : Bench) : Prop where
  tokens : b'.tokens = b.tokens
  place : b'.place = b.place
  grammar : b'.grammar = b.grammar
  openings : ∀ i, b'.openings.getD i 0 = b.openings.getD i 0
  closing : C b.closing b'.closing

/-- Two steps with the same outcome, which leave alike benches if they end well. -/
def StepsAlike (C : Int → Int → Prop) (r r' : Result Unit) : Prop :=
  (∃ b b', r = .ok () b ∧ r' = .ok () b' ∧ Alike C b b') ∨
    ∃ f b b', r = .error f b ∧ r' = .error f b'

section Alike

variable {C : Int → Int → Prop} {b b' : Bench}

theorem headD_eq_getD (ks : List Int) : ks.headD 0 = ks.getD 0 0 := by
  cases ks <;> rfl

theorem getD_tail (ks : List Int) (i : Nat) : ks.tail.getD i 0 = ks.getD (i + 1) 0 := by
  cases ks <;> rfl

theorem Alike.start (h : Alike C b b') : b'.openings.headD 0 = b.openings.headD 0 := by
  rw [headD_eq_getD, headD_eq_getD, h.openings]

/-- The same part is reduced if it ends at the same bound. -/
theorem Alike.reducePart (hC : ∀ i, C i i) (h : Alike C b b') (hbound : b'.bound = b.bound) :
    StepsAlike C b.reducePart b'.reducePart := by
  have htail : ∀ i, b'.openings.tail.getD i 0 = b.openings.tail.getD i 0 := fun i => by
    rw [getD_tail, getD_tail, h.openings]
  rw [bound, bound, h.start, h.tokens] at hbound
  unfold Bench.reducePart
  simp only [h.tokens, h.start, h.grammar, h.place, hbound]
  split
  · exact .inl ⟨_, _, rfl, rfl, rfl, rfl, rfl, htail, hC _⟩
  · exact .inr ⟨_, _, _, rfl, rfl⟩

/-- **One look** at alike benches. -/
theorem Alike.visit (hC : ∀ i, C i i) (h : Alike C b b') : StepsAlike C b.visit b'.visit := by
  unfold Bench.visit
  rw [h.tokens, h.place]
  split
  · exact .inr ⟨_, _, _, rfl, rfl⟩
  · split
    · split
      · exact .inr ⟨_, _, _, rfl, rfl⟩
      · split
        · exact .inl ⟨_, _, rfl, rfl, rfl, rfl, h.grammar, h.openings, h.closing⟩
        · split
          · exact .inr ⟨_, _, _, rfl, rfl⟩
          · split
            · exact .inl ⟨_, _, rfl, rfl, rfl, rfl, h.grammar, h.openings, h.closing⟩
            · refine .inl ⟨_, _, rfl, rfl, rfl, rfl, h.grammar, fun i => ?_, h.closing⟩
              cases i with
              | zero => rfl
              | succ i => exact h.openings i
    · split
      · -- both benches now remember the same closing
        refine Alike.reducePart hC ⟨rfl, rfl, h.grammar, h.openings, hC _⟩ ?_
        simp only [bound, h.start]
      · exact .inl ⟨_, _, rfl, rfl, h⟩

/-- **All looks** at alike benches. -/
theorem Alike.scan (hC : ∀ i, C i i) (h : Alike C b b') : StepsAlike C b.scan b'.scan := by
  have hp : b'.place < b'.tokens.length ↔ b.place < b.tokens.length := by rw [h.tokens, h.place]
  fun_induction Bench.scan b generalizing b' with
  | case1 b hlt f b₁ hv =>
    rcases h.visit hC with ⟨_, _, hok, -⟩ | ⟨_, _, b₂, he, he'⟩
    · rw [hv] at hok
      cases hok
    · rw [hv] at he
      cases he
      exact .inr ⟨_, _, _, rfl, scan_of_error (hp.2 hlt) he'⟩
  | case2 b hlt b₁ hv ih =>
    rcases h.visit hC with ⟨_, b₂, hok, hok', hnext⟩ | ⟨_, _, _, he, -⟩
    · rw [hv] at hok
      cases hok
      rw [scan_of_ok (hp.2 hlt) hok']
      have hnext : Alike C { b₁ with place := b₁.place + 1 } { b₂ with place := b₂.place + 1 } :=
        ⟨hnext.tokens, by simp only [hnext.place], hnext.grammar, hnext.openings, hnext.closing⟩
      exact ih hnext (by rw [hnext.tokens, hnext.place])
    · rw [hv] at he
      cases he
  | case3 b hge => exact .inl ⟨_, _, rfl, scan_of_end (fun hlt => hge (hp.1 hlt)), h⟩

/-- Two checks with the same outcome. -/
def ChecksAlike (r r' : Result (Option Symbol)) : Prop :=
  (∃ x b b', r = .ok x b ∧ r' = .ok x b') ∨ ∃ f b b', r = .error f b ∧ r' = .error f b'

/-- **A whole statement**, laid on alike benches. What is left to show is that the last part, too,
comes to the same. -/
theorem Alike.check {types : List Symbol} (hC : ∀ i, C i i)
    (h : Alike C (b.lay types) (b'.lay types))
    (hlast : ∀ c c', (b.lay types).scan = .ok () c → Alike C c c' →
      StepsAlike C c.reducePart c'.reducePart) :
    ChecksAlike (b.check types) (b'.check types) := by
  by_cases hne : types = []
  · subst hne
    exact .inl ⟨_, _, _, check_nil, check_nil⟩
  · have hscan := h.scan hC
    rcases check_cases (b := b) hne with ⟨f, b₁, hok, hcheck⟩ | ⟨b₁, hok, hcheck⟩ <;>
      rcases check_cases (b := b') hne with ⟨f', b₁', hok', hcheck'⟩ | ⟨b₁', hok', hcheck'⟩ <;>
      rw [hok, hok'] at hscan <;> rcases hscan with ⟨_, _, ⟨⟩, ⟨⟩, hc⟩ | ⟨_, _, _, ⟨⟩, ⟨⟩⟩
    · exact .inr ⟨_, _, _, hcheck, hcheck'⟩
    · have hpart := hlast b₁ b₁' hok hc
      rcases hcheck with ⟨f, b₂, hp, hcheck⟩ | ⟨b₂, hp, hcheck⟩ <;>
        rcases hcheck' with ⟨f', b₂', hp', hcheck'⟩ | ⟨b₂', hp', hcheck'⟩ <;>
        rw [hp, hp'] at hpart <;> rcases hpart with ⟨_, _, ⟨⟩, ⟨⟩, hd⟩ | ⟨_, _, _, ⟨⟩, ⟨⟩⟩
      · exact .inr ⟨_, _, _, hcheck, hcheck'⟩
      · exact .inl ⟨_, _, _, hcheck, hd.tokens ▸ hcheck'⟩

end Alike

/-! ### What is remembered below the start of a statement -/

/-- Below the start of a statement there are only starts of statements. -/
def Layered (b : Bench) : Prop := b.openings.IsChain (fun k j => k = 0 → j = 0)

section Layered

variable {types : List Symbol} {b b' : Bench}

theorem Layered.rooted (h : b.Layered) (hstart : b.openings.headD 0 = 0) :
    ∀ k ∈ b.openings, k = 0 := by
  unfold Layered at h
  generalize b.openings = ks at h hstart
  induction ks with
  | nil => simp
  | cons k ks ih =>
    obtain rfl : k = 0 := hstart
    obtain ⟨hhead, htail⟩ := List.isChain_cons.1 h
    have hstart : ks.headD 0 = 0 := by
      cases ks with
      | nil => rfl
      | cons j ks => exact hhead j rfl rfl
    simpa using ih htail hstart

/-- What a look does to the brackets that are remembered. -/
theorem Scanned.visit_openings (hs : b.Scanned types) (h : b.visit = .ok () b') :
    b'.openings = b.openings ∨ b'.openings = b.openings.tail ∨
      ∃ k, 0 < k ∧ b'.openings = k :: b.openings := by
  unfold Bench.visit at h
  split at h
  · cases h
  · next t ht =>
    split at h
    · next c hc =>
      obtain ⟨-, hplace⟩ := hs.of_bracket ht (.inl (by simp [hc]))
      split at h
      · cases h
      · split at h
        · cases h
          exact .inl rfl
        · split at h
          · cases h
          · split at h <;> cases h
            · exact .inl rfl
            · exact .inr (.inr ⟨_, by omega, rfl⟩)
    · split at h
      · obtain ⟨x, -, -, -, -, -, hopen⟩ := reducePart_ok_inv h
        exact .inr (.inl hopen)
      · cases h
        exact .inl rfl

theorem Layered.visit (hl : b.Layered) (hs : b.Scanned types) (h : b.visit = .ok () b') :
    b'.Layered := by
  unfold Layered at hl ⊢
  rcases hs.visit_openings h with ho | ho | ⟨k, hk, ho⟩ <;> rw [ho]
  · exact hl
  · exact hl.tail
  · exact List.isChain_cons.2 ⟨fun j _ h0 => by omega, hl⟩

theorem Layered.scan (hl : b.Layered) (hs : b.Scanned types) (h : b.scan = .ok () b') :
    b'.Layered := by
  fun_induction Bench.scan b with
  | case1 b hp f b₁ hv => cases h
  | case2 b hp b₁ hv ih =>
    have hvisit := hs.visit hv
    have hlayered : b₁.Layered := hl.visit hs hv
    refine ih hlayered
      ⟨⟨hvisit.stable.1, hvisit.stable.2⟩, hvisit.reduces, hvisit.front.imp_left ?_⟩ h
    rintro ⟨hhead, hplace⟩
    exact ⟨hhead, by simp only; omega⟩
  | case3 b hp =>
    cases h
    exact hl

/-- A check keeps the layers, and one of a well-bracketed statement leaves no bracket behind. -/
theorem Layered.check {x : Option Symbol} (hl : b.Layered) (hs : b.Stable)
    (h : b.check types = .ok x b') :
    b'.Layered ∧ (WellBracketed types → (∀ k ∈ b.openings, k = 0) → ∀ k ∈ b'.openings, k = 0) := by
  by_cases hne : types = []
  · subst hne
    rw [check_nil] at h
    cases h
    exact ⟨hl, fun _ hroot => hroot⟩
  · rcases check_cases (b := b) hne with ⟨f, b₁, -, hcheck⟩ |
      ⟨b₁, hscan, ⟨f, b₂, -, hcheck⟩ | ⟨b₂, hpart, hcheck⟩⟩ <;> rw [hcheck] at h <;> cases h
    obtain ⟨_, -, -, -, -, -, hopen⟩ := reducePart_ok_inv hpart
    have hlaid : (b.lay types).Layered := hl
    have hlayered := hlaid.scan (hs.scanned_lay types) hscan
    refine ⟨by rw [Layered, hopen]; exact hlayered.tail, fun hb hroot k hk => ?_⟩
    rw [hopen] at hk
    exact (followed_lay hb hroot).scan_ok hscan k (List.mem_of_mem_tail hk)

end Layered

/-! ### Benches without marks -/

/-- No mark is left of earlier statements. -/
structure Unmarked (b : Bench) : Prop where
  grammar : b.grammar = .statement
  rooted : ∀ k ∈ b.openings, k = 0

section Unmarked

variable {types : List Symbol} {b : Bench}

theorem unmarked_new : Unmarked {} := ⟨rfl, by simp⟩

theorem getD_of_rooted {ks : List Int} (h : ∀ k ∈ ks, k = 0) (i : Nat) : ks.getD i 0 = 0 := by
  rw [List.getD_eq_getElem?_getD]
  cases hi : ks[i]? with
  | none => rfl
  | some k => exact h k (List.mem_of_getElem? hi)

/-- A statement on a bench without marks: it differs from one on a new bench in the closing at
most. -/
theorem Unmarked.alike {C : Int → Int → Prop} (h : b.Unmarked) (hclosing : C 0 b.closing) :
    Alike C (lay {} types) (b.lay types) :=
  ⟨rfl, rfl, h.grammar,
    fun i => (getD_of_rooted h.rooted i).trans (getD_of_rooted unmarked_new.rooted i).symm, hclosing⟩

/-- The closing does not matter to a well-bracketed statement. -/
theorem Unmarked.check_of_wellBracketed (h : b.Unmarked) (hb : WellBracketed types) :
    ChecksAlike (check {} types) (b.check types) := by
  refine Alike.check (C := fun _ _ => True) (fun _ => trivial) (h.alike trivial) ?_
  intro c c' hscan hc
  refine hc.reducePart (fun _ => trivial) ?_
  have hroot := (followed_lay hb unmarked_new.rooted).scan_ok hscan
  rw [bound, bound, hc.start, if_pos (headD_of_rooted hroot), if_pos (headD_of_rooted hroot),
    hc.tokens]

theorem nextPart_eq_nil (hstart : 0 < b.openings.headD 0) (hnonneg : 0 ≤ b.closing)
    (hclosing : b.closing ≤ 1) : b.nextPart = [] := by
  rw [nextPart, bound, if_neg (by omega), Span.between, Span.place_of_nonneg hnonneg,
    Span.place_of_nonneg (by omega)]
  refine List.eq_nil_of_length_eq_zero ?_
  rw [List.length_take, List.length_drop]
  omega

/-- Closings between which no bracket can tell. -/
def NoContent (i j : Int) : Prop := i = j ∨ (0 ≤ i ∧ i ≤ 1) ∧ 0 ≤ j ∧ j ≤ 1

/-- Nor does a closing that lies before the content of any bracket matter to other statements. -/
theorem Unmarked.check_of_closing (h : b.Unmarked) (hnonneg : 0 ≤ b.closing)
    (hclosing : b.closing ≤ 1) : ChecksAlike (check {} types) (b.check types) := by
  have hC : ∀ i, NoContent i i := fun i => .inl rfl
  refine Alike.check hC (h.alike (C := NoContent) (.inr ⟨by decide, hnonneg, hclosing⟩)) ?_
  intro c c' hscan hc
  have hscanned := (Stable.scanned_lay ⟨by simp, Int.le_refl 0⟩ types).scan hscan
  have hstart := hscanned.stable.start_nonneg
  by_cases h0 : c.openings.headD 0 = 0
  · refine hc.reducePart hC ?_
    rw [bound, bound, hc.start, if_pos h0, if_pos h0, hc.tokens]
  · rcases hc.closing with heq | ⟨hle, hle'⟩
    · refine hc.reducePart hC ?_
      rw [bound, bound, hc.start, if_neg h0, if_neg h0, heq]
    · -- neither statement has anything between the bracket and the closing
      obtain ⟨d, hd⟩ := reducePart_of_nil (nextPart_eq_nil (b := c) (by omega) hle.1 hle.2)
      obtain ⟨d', hd'⟩ := reducePart_of_nil (nextPart_eq_nil (b := c')
        (by rw [hc.start]; omega) hle'.1 hle'.2)
      exact .inr ⟨_, d, d', hd, hd'⟩

end Unmarked

end Bench

/-! ### Statements that show a mark -/

namespace Parsing

section Marks

variable {s : Parsing} {types : List Symbol}

theorem outcome_of_checksAlike (h : Bench.ChecksAlike (Bench.check {} types) (s.bench.check types)) :
    s.outcome types = ({} : Parsing).outcome types := by
  rcases h with ⟨x, b, b', hnew, hs⟩ | ⟨f, b, b', hnew, hs⟩
  · rw [outcome_of_ok hs, outcome_of_ok (s := {}) hnew]
  · rw [outcome_of_error hs, outcome_of_error (s := {}) hnew]

/-- A statement without brackets is reduced from the latest bracket that is remembered. -/
theorem outcome_of_plain (hne : types ≠ [])
    (hplain : ∀ t ∈ types, t.closer? = none ∧ t.isCloser = false) :
    (∃ b, (s.bench.layEnd types).reducePart = .error (.unparsed .statement) b ∧
        s.outcome types = .error (.unparsed .statement)) ∨
      ∃ b, (s.bench.layEnd types).reducePart = .ok () b ∧
        s.outcome types = .ok b.tokens.head?.toList := by
  have hscan : (s.bench.lay types).scan = .ok () (s.bench.layEnd types) :=
    Bench.scan_of_plain (u := []) rfl rfl hplain
  rcases Bench.check_cases (b := s.bench) hne with ⟨f, b₁, hok, -⟩ | ⟨b₁, hok, hcheck⟩ <;>
    rw [hscan] at hok <;> cases hok
  rcases hcheck with ⟨f, b₂, hpart, hcheck⟩ | ⟨b₂, hpart, hcheck⟩
  · obtain rfl := Bench.reducePart_error hpart
    exact .inl ⟨b₂, hpart, outcome_of_error hcheck⟩
  · exact .inr ⟨b₂, hpart, outcome_of_ok hcheck⟩

/-- The assignment of a value. -/
def valueAssignment : List Symbol := [.ident, .equals, .value]

theorem valueAssignment_plain : ∀ t ∈ valueAssignment, t.closer? = none ∧ t.isCloser = false := by
  decide

theorem valueAssignment_wellBracketed : WellBracketed valueAssignment := ⟨by decide, by decide⟩

theorem outcome_valueAssignment : ({} : Parsing).outcome valueAssignment = .ok [.assignment] := by
  decide +kernel

/-- Where a bracket is remembered, or the program grammar is in use, an assignment is not
recognised. -/
theorem unmarked_of_valueAssignment (hs : s.bench.Stable) (hl : s.bench.Layered)
    (h : s.outcome valueAssignment = .ok [.assignment]) : s.bench.Unmarked := by
  obtain ⟨b', hpart, hout⟩ :=
    (outcome_of_plain (s := s) (by decide) valueAssignment_plain).resolve_left (by simp [h])
  have hstart : s.bench.openings.headD 0 = 0 := by
    by_contra hne
    have hpos := hs.start_nonneg
    -- the first word of the assignment would be left
    have hfront := Bench.reducePart_front (b := s.bench.layEnd valueAssignment)
      (by change 0 < s.bench.openings.headD 0; omega) hpart
    rw [hout, hfront] at h
    cases h
  refine ⟨?_, hl.rooted hstart⟩
  cases hg : s.bench.grammar with
  | statement => rfl
  | program =>
    have hundone : (reduceStatement .program valueAssignment).done = false := by decide +kernel
    have hnext : (s.bench.layEnd valueAssignment).nextPart = valueAssignment :=
      Bench.nextPart_whole hstart
    obtain ⟨b', herr⟩ := Bench.reducePart_of_undone (b := s.bench.layEnd valueAssignment) (by
      rw [hnext]
      exact hg ▸ hundone)
    rw [herr] at hpart
    cases hpart

/-- The return of a value after a bracket that stays open. -/
def openReturn : List Symbol := [.openSquare, .returnWord, .ident]

theorem outcome_openReturn : ({} : Parsing).outcome openReturn = .error (.unparsed .statement) := by
  decide +kernel

/-- The bracket is remembered, and nothing else happens. -/
theorem scan_openReturn (b : Bench) :
    (b.lay openReturn).scan = .ok () ((b.remember 1).layEnd openReturn) := by
  have hvisit : (b.lay openReturn).visit = .ok () ((b.remember 1).lay openReturn) := rfl
  rw [Bench.scan_of_ok (by change (0 : Int) < 3; decide) hvisit]
  exact Bench.scan_of_plain (u := [.openSquare]) (v := [.returnWord, .ident]) rfl rfl (by decide)

theorem nextPart_openReturn {b : Bench} (h : 1 < b.closing) :
    ((b.remember 1).layEnd openReturn).nextPart = [.returnWord] ∨
      ((b.remember 1).layEnd openReturn).nextPart = [.returnWord, .ident] := by
  have hnext : ((b.remember 1).layEnd openReturn).nextPart =
      Span.between 1 b.closing openReturn := rfl
  rw [hnext, Span.between, Span.place_of_nonneg (i := b.closing) (by omega)]
  obtain hc | hc : b.closing.toNat = 2 ∨ openReturn.length ≤ b.closing.toNat := by
    simp only [openReturn, List.length_cons, List.length_nil]
    omega
  · exact .inl (by rw [hc]; rfl)
  · exact .inr (by rw [Nat.min_eq_right hc]; rfl)

/-- A closing inside the statement is taken for that of its bracket. -/
theorem closing_le_of_openReturn (hg : s.bench.grammar = .statement)
    (h : s.outcome openReturn = .error (.unparsed .statement)) : s.bench.closing ≤ 1 := by
  by_contra hlt
  have hdone : (reduceStatement s.bench.grammar
      ((s.bench.remember 1).layEnd openReturn).nextPart).done = true := by
    rw [hg]
    rcases nextPart_openReturn (b := s.bench) (by omega) with hpart | hpart <;> rw [hpart] <;>
      decide +kernel
  obtain ⟨b', hok⟩ := Bench.reducePart_of_done (b := (s.bench.remember 1).layEnd openReturn) hdone
  have hne : openReturn ≠ [] := by decide
  rcases Bench.check_cases (b := s.bench) hne with ⟨f, b₁, he, -⟩ | ⟨b₁, he, hcheck⟩ <;>
    rw [scan_openReturn] at he <;> cases he
  rcases hcheck with ⟨f, b₂, he, -⟩ | ⟨b₂, he, hcheck⟩ <;> rw [hok] at he <;> cases he
  rw [outcome_of_ok hcheck] at h
  cases h

end Marks

/-! ### Earlier statements -/

/-- A parsing in which statements have been checked, if all these checks ended well. -/
def afterChecks (hs : List (List Symbol)) : Option Parsing :=
  match hs.forM checkStatement {} with
  | .ok () s => some s
  | .error _ _ => none

/-- What is known of the bench after statements whose checks ended well. -/
structure Settling (b : Bench) : Prop where
  stable : b.Stable
  layered : b.Layered

theorem Settling.forM {hs : List (List Symbol)} {s s' : Parsing} (h : Settling s.bench)
    (hok : hs.forM checkStatement s = .ok () s') :
    Settling s'.bench ∧ ((∀ types ∈ hs, WellBracketed types) →
      (∀ k ∈ s.bench.openings, k = 0) → ∀ k ∈ s'.bench.openings, k = 0) := by
  induction hs generalizing s with
  | nil =>
    cases hok
    exact ⟨h, fun _ hroot => hroot⟩
  | cons types hs ih =>
    obtain ⟨⟨⟩, s₁, hone, hok⟩ := bind_ok hok
    obtain ⟨x, hcheck, -⟩ := checkStatement_ok hone
    obtain ⟨hstable, -⟩ := Bench.check_spec h.stable hcheck
    obtain ⟨hlayered, hroot₁⟩ := h.layered.check h.stable hcheck
    obtain ⟨hsettling, hroot₂⟩ := ih ⟨hstable, hlayered⟩ hok
    refine ⟨hsettling, fun hb hroot => hroot₂ (fun t ht => hb t (List.mem_cons_of_mem _ ht)) ?_⟩
    exact hroot₁ (hb types List.mem_cons_self) hroot

theorem Settling.of_afterChecks {hs : List (List Symbol)} {s : Parsing}
    (h : afterChecks hs = some s) :
    Settling s.bench ∧ ((∀ types ∈ hs, WellBracketed types) → ∀ k ∈ s.bench.openings, k = 0) := by
  unfold afterChecks at h
  split at h <;> cases h
  next hok =>
    have hnew : Settling ({} : Parsing).bench := ⟨⟨by simp, Int.le_refl 0⟩, .singleton 0⟩
    obtain ⟨hsettling, hroot⟩ := hnew.forM hok
    exact ⟨hsettling, fun hb => hroot hb (by simp)⟩

/-- **When earlier statements do not matter**, after checks that all ended well. To statements that
are well bracketed they do not matter if and only if the statement grammar is in use again and no
bracket is remembered; if all earlier statements were well bracketed, the grammar decides. To
statements of any kind the latest closing matters as well. -/
theorem outcome_independent_iff (hs : List (List Symbol)) (s : Parsing)
    (h : afterChecks hs = some s) :
    ((∀ types, WellBracketed types → s.outcome types = ({} : Parsing).outcome types) ↔
        s.bench.Unmarked) ∧
      ((∀ types ∈ hs, WellBracketed types) →
        (s.bench.Unmarked ↔ s.bench.grammar = .statement)) ∧
      ((∀ types, s.outcome types = ({} : Parsing).outcome types) ↔
        s.bench.Unmarked ∧ s.bench.closing ≤ 1) := by
  obtain ⟨hsettling, hroot⟩ := Settling.of_afterChecks h
  have hmark : s.outcome valueAssignment = ({} : Parsing).outcome valueAssignment →
      s.bench.Unmarked := fun heq =>
    unmarked_of_valueAssignment hsettling.stable hsettling.layered
      (heq.trans outcome_valueAssignment)
  refine ⟨⟨fun hall => hmark (hall _ valueAssignment_wellBracketed), ?_⟩, ?_, ⟨fun hall => ?_, ?_⟩⟩
  · intro hun types hb
    exact outcome_of_checksAlike (hun.check_of_wellBracketed hb)
  · intro hb
    exact ⟨fun hun => hun.grammar, fun hg => ⟨hg, hroot hb⟩⟩
  · have hun := hmark (hall _)
    exact ⟨hun, closing_le_of_openReturn hun.grammar ((hall _).trans outcome_openReturn)⟩
  · rintro ⟨hun, hclosing⟩ types
    exact outcome_of_checksAlike (hun.check_of_closing hsettling.stable.closing hclosing)

/-- The assignment of an array, and a statement that prints it. -/
def arrayStatements : List (List Symbol) :=
  [[.ident, .equals, .openSquare, .value, .comma, .value, .comma, .value, .closeSquare],
    [.printWord, .ident]]

theorem outcome_independent_arrayStatements :
    ∃ s, afterChecks arrayStatements = some s ∧
      ∀ types, WellBracketed types → s.outcome types = ({} : Parsing).outcome types := by
  have hgrammar : (afterChecks arrayStatements).map (·.bench.grammar) = some .statement := by
    decide +kernel
  have hb : ∀ types ∈ arrayStatements, WellBracketed types := by
    have hnested : ∀ types ∈ arrayStatements, NestedBy Symbol.rise types ∧
        types.IsChain (fun o c => o.suits c = true) := by decide
    exact fun types ht => ⟨(hnested types ht).1, (hnested types ht).2⟩
  obtain ⟨s, hs, hg⟩ := Option.map_eq_some_iff.1 hgrammar
  obtain ⟨hiff, hunmarked, -⟩ := outcome_independent_iff arrayStatements s hs
  exact ⟨s, hs, hiff.2 ((hunmarked hb).2 hg)⟩

/-- After a line with two assignments, which is accepted, a single one is not. -/
theorem outcome_after_twoAssignments :
    (afterChecks [valueAssignment ++ valueAssignment]).map (·.outcome valueAssignment) =
        some (.error (.unparsed .statement)) ∧
      ({} : Parsing).outcome valueAssignment = .ok [.assignment] := by
  decide +kernel

end Parsing

end BrightLint
