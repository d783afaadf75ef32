import BrightLint.Grammar.Loop
import BrightLint.Proofs.Derivation
import BrightLint.Proofs.Places

/-!
The loops of the reducer come to an end, with one symbol or with a statement that cannot be parsed,
and they make the reductions of `reduceStatement` in the same order.

Within one turn of a grammar everything rests on a quantity that no step changes,
`Reducer.prospect`: what will have been recorded and what will be left when the turn is over. A
look-up finds the next reduction of the turn because the places and the levels tried before it had
nothing (`Reducer.Tried`), and every reduction makes the statement lighter.

* `Reducer.sweepFrom_spec`, `Reducer.climb_spec`, `Reducer.takeTurns_spec`: what each loop comes to
* `Reducer.iterate_outcome`: a reduction ends in one of two ways
* `Reducer.iterate_trail`: what it records are single reductions, and in the end a derivation
-/

namespace BrightLint

namespace Reducer

/-- The statement, its last symbol first. -/
def stack (s : Reducer) : List Symbol := s.statement.reverse

/-- The levels that are tried are those of the grammar. -/
def Fits (s : Reducer) : Prop := s.priorities = s.grammar.grammar.levels.length

/-- The first `k` levels have nothing to reduce. -/
def StuckBelow (k : Nat) (s : Reducer) : Prop :=
  ∀ j < k, ∀ l : Level, s.grammar.grammar.levels[j]? = some l → l.reduce? s.stack = none

/-- The levels before the current one have nothing to reduce, nor has the current one at the first
`i` places. -/
structure Tried (i : Nat) (s : Reducer) : Prop where
  levels : s.StuckBelow s.level
  places : ∀ l : Level, s.grammar.grammar.levels[s.level]? = some l →
    ∀ j < i, l.matchAt? (s.stack.drop j) = none

/-- Steps on a stack as they are recorded. -/
def recorded (n : GrammarName) (steps : List (List Symbol)) : List Reduced :=
  steps.map fun st => ⟨n, st.reverse⟩

/-- What will have been recorded, and what will be left, at the end of the turn. -/
def prospect (s : Reducer) : List Reduced × List Symbol :=
  if s.isValid then (s.output, s.stack)
  else (s.output ++ recorded s.grammar (s.grammar.grammar.run s.stack),
    endOf s.stack (s.grammar.grammar.run s.stack))

/-- From `s` to `t` there were reductions, all of them in one turn. -/
structure Progress (s t : Reducer) : Prop where
  grammar_eq : t.grammar = s.grammar
  priorities_eq : t.priorities = s.priorities
  prospect_eq : t.prospect = s.prospect
  level_eq : t.level = 0
  byStatement_eq : t.byStatement = (t.grammar == .statement)
  byProgram_eq : t.byProgram = (t.grammar != .statement)
  lighter : weightOf t.statement < weightOf s.statement
  valid_iff : t.isValid = true ↔ t.statement.length = 1

theorem Progress.trans {s t u : Reducer} (h₁ : s.Progress t) (h₂ : t.Progress u) :
    s.Progress u where
  grammar_eq := h₂.grammar_eq.trans h₁.grammar_eq
  priorities_eq := h₂.priorities_eq.trans h₁.priorities_eq
  prospect_eq := h₂.prospect_eq.trans h₁.prospect_eq
  level_eq := h₂.level_eq
  byStatement_eq := h₂.byStatement_eq
  byProgram_eq := h₂.byProgram_eq
  lighter := h₂.lighter.trans h₁.lighter
  valid_iff := h₂.valid_iff

theorem Progress.not_idle {s t : Reducer} (h : s.Progress t) : t.isIdle = false := by
  rw [isIdle, h.byProgram_eq, h.byStatement_eq]
  cases t.grammar <;> rfl

/-- From `s` to `t` there were reductions or none, all of them in one turn. -/
def Within (s t : Reducer) : Prop := t = s ∨ s.Progress t

theorem Within.trans_progress {s t u : Reducer} (h₁ : s.Within t) (h₂ : t.Progress u) :
    s.Progress u := by
  rcases h₁ with rfl | h₁
  · exact h₂
  · exact h₁.trans h₂

theorem Within.priorities_eq {s t : Reducer} (h : s.Within t) : t.priorities = s.priorities := by
  rcases h with rfl | h
  · rfl
  · exact h.priorities_eq

theorem Within.fits {s t : Reducer} (h : s.Within t) (hf : s.Fits) : t.Fits := by
  rcases h with rfl | h
  · exact hf
  · unfold Fits
    rw [h.priorities_eq, h.grammar_eq]
    exact hf

theorem Within.eq_of_idle {s t : Reducer} (h : s.Within t) (hidle : t.isIdle = true) : t = s := by
  rcases h with rfl | h
  · rfl
  · rw [h.not_idle] at hidle
    cases hidle

theorem Within.level_lt {s t : Reducer} (h : s.Within t) (hl : s.level < s.priorities) :
    t.level < t.priorities := by
  rcases h with rfl | h
  · exact hl
  · rw [h.level_eq, h.priorities_eq]
    omega

/-- Unless one symbol is left, the statement is not yet valid. -/
theorem Within.not_valid {s t : Reducer} (h : s.Within t) (hv : s.isValid = false)
    (hone : t.statement.length ≠ 1) : t.isValid = false := by
  rcases h with rfl | h
  · exact hv
  · cases hb : t.isValid with
    | false => rfl
    | true => exact absurd (h.valid_iff.1 hb) hone

/-! ### One reduction -/

theorem prospect_of_stuck {s : Reducer} (hv : s.isValid = false)
    (h : s.grammar.grammar.run s.stack = []) : s.prospect = (s.output, s.stack) := by
  simp [prospect, hv, h, recorded, endOf]

theorem run_eq_nil_of_stuckBelow {s : Reducer} (hf : s.Fits) {k : Nat} (hk : s.priorities ≤ k)
    (h : s.StuckBelow k) : s.grammar.grammar.run s.stack = [] := by
  rw [Grammar.run_eq_nil_iff, Grammar.reduce?_eq_none_iff]
  intro j l hl
  have hj : j < s.grammar.grammar.levels.length := (List.getElem?_eq_some_iff.1 hl).1
  exact h j (by rw [← hf] at hj; omega) l hl

theorem exists_level {s : Reducer} (hf : s.Fits) (hl : s.level < s.priorities) :
    ∃ l : Level, s.grammar.grammar.levels[s.level]? = some l := by
  rw [hf] at hl
  exact ⟨_, List.getElem?_eq_getElem hl⟩

/-- What the look-up of the loops finds at a place. -/
theorem find_eq {s : Reducer} {l : Level} {i : Nat}
    (hl : s.grammar.grammar.levels[s.level]? = some l) (hi : i < s.statement.length) :
    s.find i =
      .ok ((l.matchAt? (s.stack.drop i)).map fun q => (q.1, spliceAt i q.1 s.statement)) := by
  obtain ⟨r, hr, hfound⟩ := Grammar.lookup_ofNat hl hi
  rw [find, hr]
  exact congrArg Except.ok hfound

/-- After places tried in vain, the production found is that of the next reduction. -/
theorem reduce?_of_found {s : Reducer} {l : Level} {i : Nat} {q : Production × List Symbol}
    (hl : s.grammar.grammar.levels[s.level]? = some l) (ht : s.Tried i)
    (hm : l.matchAt? (s.stack.drop i) = some q) :
    s.grammar.grammar.reduce? s.stack = some (spliceAt i q.1 s.statement).reverse := by
  have hsplit : s.stack.drop i = q.1.rhs.reverse ++ q.2 := by
    cases hd : s.stack.drop i with
    | nil => simp [hd, Level.matchAt?] at hm
    | cons t below =>
      rw [hd, Level.matchAt?] at hm
      exact (eq_append_of_matchTop? hm).2
  rw [reverse_spliceAt hsplit]
  exact Grammar.reduce?_of_level hl ht.levels (Level.reduce?_of_match (ht.places l hl) hm)

/-- **A reduction that the loops make** keeps the prospect of the turn. -/
theorem progress_replace {s : Reducer} {st : List Symbol} (hv : s.isValid = false)
    (h : s.grammar.grammar.reduce? s.stack = some st.reverse) :
    s.Progress { s.replace st with isValid := decide (st.length = 1) } where
  grammar_eq := rfl
  priorities_eq := rfl
  level_eq := rfl
  byStatement_eq := rfl
  byProgram_eq := rfl
  lighter := by simpa [stack, replace] using Grammar.weightOf_reduce?_lt h
  valid_iff := by simp [replace]
  prospect_eq := by
    -- the run of the turn starts with this step, and ends with it if one symbol is left
    have hrun := Grammar.run_of_some h
    simp only [stack] at hrun
    by_cases hone : st.length = 1
    · rw [if_pos (by simpa using hone)] at hrun
      simp [prospect, hv, hone, hrun, replace, recorded, stack, endOf]
    · rw [if_neg (by simpa using hone)] at hrun
      simp [prospect, hv, hone, hrun, replace, recorded, stack, endOf_cons]

/-! ### Rounds -/

/-- With enough rounds a loop comes to this end, and more rounds do not change it. -/
def ComesTo (x : Nat → Loop) (v : Except (Fault × Reducer) Reducer) : Prop :=
  ∃ n, ∀ m, n ≤ m → (x m).run = some v

section Rounds

variable {x y : Nat → Loop} {f : Nat → Reducer → Loop} {t : Reducer}
  {v : Except (Fault × Reducer) Reducer}

theorem comesTo_pure (t : Reducer) : ComesTo (fun _ => pure t) (.ok t) := ⟨0, fun _ _ => rfl⟩

theorem comesTo_throw (e : Fault × Reducer) : ComesTo (fun _ => throw e) (.error e) :=
  ⟨0, fun _ _ => rfl⟩

/-- A loop has one end. -/
theorem ComesTo.unique {w : Except (Fault × Reducer) Reducer} (h : ComesTo x v) (h' : ComesTo x w) :
    v = w := by
  obtain ⟨n, hn⟩ := h
  obtain ⟨k, hk⟩ := h'
  exact Option.some.inj ((hn _ (Nat.le_max_left n k)).symm.trans (hk _ (Nat.le_max_right n k)))

/-- One round before the others. -/
theorem ComesTo.of_succ (h : ComesTo y v) (hxy : ∀ n, x (n + 1) = y n) : ComesTo x v := by
  obtain ⟨n, hn⟩ := h
  refine ⟨n + 1, fun m hm => ?_⟩
  obtain ⟨k, rfl⟩ : ∃ k, m = k + 1 := ⟨m - 1, by omega⟩
  rw [hxy]
  exact hn k (by omega)

/-- One loop after the other. -/
theorem ComesTo.of_bind (hy : ComesTo y (.ok t)) (hf : ComesTo (f · t) v)
    (hxy : ∀ n, x (n + 1) = y n >>= f n) : ComesTo x v := by
  obtain ⟨n, hn⟩ := hy
  obtain ⟨k, hk⟩ := hf
  have hboth : ComesTo (fun n => y n >>= f n) v := by
    refine ⟨max n k, fun m hm => ?_⟩
    have hym : y m = pure t := hn m (by omega)
    simp only [hym, pure_bind]
    exact hk m (by omega)
  exact hboth.of_succ hxy

theorem ComesTo.of_bind_error {e : Fault × Reducer} (hy : ComesTo y (.error e))
    (hxy : ∀ n, x (n + 1) = y n >>= f n) : ComesTo x (.error e) := by
  obtain ⟨n, hn⟩ := hy
  have hboth : ComesTo (fun n => y n >>= f n) (.error e) := by
    refine ⟨n, fun m hm => ?_⟩
    have hym : y m = throw e := hn m hm
    simp only [hym]
    rfl
  exact hboth.of_succ hxy

end Rounds

/-! ### The sweep over the places -/

section Sweep

variable {i : Nat} {s t : Reducer} {p : Production} {st : List Symbol}
  {v : Except (Fault × Reducer) Reducer}

theorem comesTo_sweepFrom_of_valid (hv : s.isValid = true) (hi : s.statement.length ≤ i) :
    ComesTo (sweepFrom · i s) (.ok s) := by
  refine (comesTo_pure s).of_succ fun n => ?_
  rw [sweepFrom, if_neg (by omega), hv]
  rfl

theorem comesTo_sweepFrom_of_none (hi : i < s.statement.length) (hfind : s.find i = .ok none)
    (h : ComesTo (sweepFrom · (i + 1) s) v) : ComesTo (sweepFrom · i s) v := by
  refine h.of_succ fun n => ?_
  rw [sweepFrom, if_pos hi, hfind]

theorem comesTo_sweepFrom_of_one (hi : i < s.statement.length)
    (hfind : s.find i = .ok (some (p, st))) (hone : st.length = 1)
    (h : ComesTo (sweepFrom · (i + 1) { s.replace st with isValid := true }) v) :
    ComesTo (sweepFrom · i s) v := by
  refine h.of_succ fun n => ?_
  rw [sweepFrom, if_pos hi, hfind]
  simp only [hone, if_true]

theorem comesTo_sweepFrom_of_many (hi : i < s.statement.length)
    (hfind : s.find i = .ok (some (p, st))) (hone : st.length ≠ 1)
    (h : ComesTo (sweepFrom · 0 { s.replace st with isValid := false }) (.ok t))
    (h' : ComesTo (sweepFrom · (i + 1) t) v) : ComesTo (sweepFrom · i s) v := by
  refine h.of_bind h' fun n => ?_
  rw [sweepFrom, if_pos hi, hfind]
  simp only [hone, if_false]

end Sweep

theorem tried_succ {s : Reducer} {l : Level} {i : Nat}
    (hl : s.grammar.grammar.levels[s.level]? = some l) (ht : s.Tried i)
    (hm : l.matchAt? (s.stack.drop i) = none) : s.Tried (i + 1) where
  levels := ht.levels
  places := by
    intro m hm' j hj
    rw [hl] at hm'
    cases hm'
    rcases Nat.lt_succ_iff_lt_or_eq.1 hj with hj | rfl
    · exact ht.places _ hl j hj
    · exact hm

/-- A level that has nothing at any place has nothing to reduce. -/
theorem stuckBelow_succ {s : Reducer} (ht : s.Tried s.statement.length) :
    s.StuckBelow (s.level + 1) := by
  intro j hj l hl
  rcases Nat.lt_succ_iff_lt_or_eq.1 hj with hj | rfl
  · exact ht.levels j hj l hl
  · exact Level.reduce?_eq_none_of_length (by simpa [stack] using ht.places l hl)

theorem tried_of_stuckBelow {s : Reducer} (h : s.StuckBelow (s.level + 1)) (i : Nat) :
    s.Tried i where
  levels := fun j hj => h j (by omega)
  places := fun l hl j _ => Level.matchAt?_drop_of_reduce? (h s.level (by omega) l hl) j

theorem tried_zero {s : Reducer} (h : s.StuckBelow s.level) : s.Tried 0 :=
  ⟨h, fun _ _ _ hj => absurd hj (by omega)⟩

theorem stuckBelow_zero (s : Reducer) : s.StuckBelow 0 := fun _ hj => absurd hj (by omega)

/-- What a sweep comes to: it leaves its level with nothing to reduce, unless one symbol is left,
and it gives up only with the last level, in a turn that had no reduction. -/
def SweepEnds (i : Nat) (s : Reducer) : Prop :=
  (ComesTo (sweepFrom · i s) (.error (.unparsed .statement, s)) ∧ s.isIdle = true ∧
    s.level + 1 = s.priorities ∧ s.StuckBelow (s.level + 1)) ∨
  ∃ t, ComesTo (sweepFrom · i s) (.ok t) ∧ (t.isValid = false → t.StuckBelow (t.level + 1)) ∧
    s.Within t

/-- A turn that had a reduction does not give up. -/
theorem SweepEnds.of_not_idle {i : Nat} {s t : Reducer} (hp : s.Progress t) (h : SweepEnds i t) :
    ∃ u, ComesTo (sweepFrom · i t) (.ok u) ∧
      (u.isValid = false → u.StuckBelow (u.level + 1)) ∧ s.Progress u := by
  obtain ⟨-, hidle, -, -⟩ | ⟨u, hu, hstuck, rfl | hpu⟩ := h
  · rw [hp.not_idle] at hidle
    cases hidle
  · exact ⟨u, hu, hstuck, hp⟩
  · exact ⟨u, hu, hstuck, hp.trans hpu⟩

/-- The end of a sweep that has found a production: those after it are on lighter statements. -/
theorem sweepEnds_of_found {i : Nat} {s : Reducer} {p : Production} {st : List Symbol} (hf : s.Fits)
    (hl : s.level < s.priorities) (hv : s.isValid = false) (hi : i < s.statement.length)
    (hfind : s.find i = .ok (some (p, st)))
    (hred : s.grammar.grammar.reduce? s.stack = some st.reverse)
    (ih : ∀ j t, weightOf t.statement < weightOf s.statement → t.Fits → t.level < t.priorities →
      t.isValid = false → t.Tried j → SweepEnds j t) : SweepEnds i s := by
  right
  have hp := progress_replace hv hred
  by_cases hone : st.length = 1
  · -- one symbol is left, and no place after this one
    simp only [hone, decide_true] at hp
    refine ⟨_, comesTo_sweepFrom_of_one hi hfind hone ?_, fun h => absurd h (by simp), .inr hp⟩
    exact comesTo_sweepFrom_of_valid rfl (by simp [replace, hone])
  · -- the inner sweep starts from the end of the statement, with the first level
    simp only [hone, decide_false] at hp
    have hinner := ih 0 _ hp.lighter (Within.fits (.inr hp) hf) (show 0 < s.priorities by omega) rfl
      (tried_zero (stuckBelow_zero _))
    obtain ⟨t, ht, hstuck, hpt⟩ := hinner.of_not_idle hp
    by_cases htv : t.isValid = true
    · refine ⟨t, comesTo_sweepFrom_of_many hi hfind hone ht ?_, fun h => absurd h (by simp [htv]),
        .inr hpt⟩
      exact comesTo_sweepFrom_of_valid htv (by rw [hpt.valid_iff.1 htv]; omega)
    · -- the first level has nothing more, so neither have the places that are left
      have htf : t.isValid = false := by simpa using htv
      have hw : s.Within t := .inr hpt
      have houter := ih (i + 1) t hpt.lighter (hw.fits hf) (hw.level_lt hl) htf
        (tried_of_stuckBelow (hstuck htf) _)
      obtain ⟨u, hu, hstuck', hpu⟩ := houter.of_not_idle hpt
      exact ⟨u, comesTo_sweepFrom_of_many hi hfind hone ht hu, hstuck', .inr hpu⟩

/-- **A sweep comes to an end.** -/
theorem sweepFrom_spec (i : Nat) (s : Reducer) (hf : s.Fits) (hl : s.level < s.priorities)
    (hv : s.isValid = false) (ht : s.Tried i) : SweepEnds i s := by
  obtain ⟨l, hlev⟩ := exists_level hf hl
  by_cases hi : i < s.statement.length
  · have hfind := find_eq hlev hi
    cases hm : l.matchAt? (s.stack.drop i) with
    | none =>
      rw [hm, Option.map_none] at hfind
      have hrest := sweepFrom_spec (i + 1) s hf hl hv (tried_succ hlev ht hm)
      obtain ⟨hgive, hend⟩ | ⟨t, ht, hend⟩ := hrest
      · exact .inl ⟨comesTo_sweepFrom_of_none hi hfind hgive, hend⟩
      · exact .inr ⟨t, comesTo_sweepFrom_of_none hi hfind ht, hend⟩
    | some q =>
      rw [hm, Option.map_some] at hfind
      exact sweepEnds_of_found hf hl hv hi hfind (reduce?_of_found hlev ht hm)
        fun j t _ => sweepFrom_spec j t
  · have hstuck : s.StuckBelow (s.level + 1) :=
      stuckBelow_succ ⟨ht.levels, fun m hm j hj => ht.places m hm j (by omega)⟩
    by_cases hend : s.level + 1 = s.priorities ∧ s.isIdle = true
    · left
      refine ⟨(comesTo_throw _).of_succ fun n => ?_, hend.2, hend.1, hstuck⟩
      rw [sweepFrom, if_neg hi, if_pos (by simp [hv, hend])]
    · right
      refine ⟨s, (comesTo_pure s).of_succ fun n => ?_, fun _ => hstuck, .inl rfl⟩
      rw [sweepFrom, if_neg hi, if_neg (by simpa [hv] using hend)]
termination_by (weightOf s.statement, s.statement.length - i)

/-! ### The turn of a grammar -/

/-- A single symbol for which the first level has nothing is left as it is: the other levels need at
least two symbols. -/
theorem run_eq_nil_of_single {s : Reducer} (hone : s.statement.length = 1) (h : s.StuckBelow 1) :
    s.grammar.grammar.run s.stack = [] := by
  have hlong : ∀ l ∈ s.grammar.grammar.levels.tail, ∀ q ∈ l, ∀ p ∈ q.2, 2 ≤ p.rhs.length := by
    cases s.grammar <;> decide +kernel
  rw [Grammar.run_eq_nil_iff, Grammar.reduce?_eq_none_iff]
  intro j l hl
  cases j with
  | zero => exact h 0 (by omega) l hl
  | succ j =>
    rw [← List.getElem?_tail] at hl
    rw [Option.eq_none_iff_forall_not_mem]
    intro next hnext
    obtain ⟨t, p, hp, above, below, he, -⟩ := Level.exists_of_reduce? hnext
    obtain ⟨ps, hps, hp⟩ := Level.mem_of_filed hp
    have htwo := hlong l (List.mem_of_getElem? hl) _ hps p hp
    have hlen := congrArg List.length he
    simp only [stack, List.length_append, List.length_reverse] at hlen
    omega

theorem sweep_eq {s : Reducer} (hv : s.isValid = false) (n : Nat) :
    s.sweep n = sweepFrom n 0 s := by
  rw [sweep, ← hv]

theorem climb_succ {s : Reducer} (hv : s.isValid = false) (hl : s.level < s.priorities) (n : Nat) :
    climb (n + 1) s = sweepFrom n 0 s >>= fun t =>
      if t.statement.length = 1 then pure (t.atLevel (t.level + 1))
      else climb n (t.atLevel (t.level + 1)) := by
  rw [climb, if_pos hl, sweep_eq hv]

/-- The level at which the loops stand does not matter for what they will have done. -/
theorem Progress.of_level {s t : Reducer} {k : Nat} (h : (s.atLevel k).Progress t) :
    s.Progress t :=
  ⟨h.grammar_eq, h.priorities_eq, h.prospect_eq, h.level_eq, h.byStatement_eq, h.byProgram_eq,
    h.lighter, h.valid_iff⟩

/-- What a turn comes to: it leaves the grammar with nothing to reduce, unless one symbol is left,
and it gives up only if there was no reduction at all. -/
def TurnEnds (s : Reducer) : Prop :=
  (∃ k, ComesTo (climb · s) (.error (.unparsed .statement, s.atLevel k)) ∧ s.isIdle = true ∧
    s.grammar.grammar.run s.stack = []) ∨
  ∃ t k, ComesTo (climb · s) (.ok (t.atLevel k)) ∧
    (t.isValid = false → t.grammar.grammar.run t.stack = []) ∧ s.Within t

/-- **A turn comes to an end.** -/
theorem climb_spec (s : Reducer) (hf : s.Fits) (hv : s.isValid = false)
    (hk : s.level ≤ s.priorities) (hstuck : s.StuckBelow s.level)
    (hone : s.statement.length = 1 → s.level = 0) : TurnEnds s := by
  by_cases hl : s.level < s.priorities
  · obtain ⟨hgive, hidle, hlast, hbelow⟩ | ⟨t, ht, htstuck, hst⟩ :=
      sweepFrom_spec 0 s hf hl hv (tried_zero hstuck)
    · left
      exact ⟨s.level, hgive.of_bind_error (climb_succ hv hl), hidle,
        run_eq_nil_of_stuckBelow hf (by omega) hbelow⟩
    by_cases htone : t.statement.length = 1
    · -- one symbol: either it was reached just now, or nothing applies to it
      right
      refine ⟨t, t.level + 1, ht.of_bind ?_ (climb_succ hv hl), fun htv => ?_, hst⟩
      · simp only [if_pos htone]
        exact comesTo_pure _
      rcases hst with rfl | hp
      · rw [hone htone] at htstuck
        exact run_eq_nil_of_single htone (htstuck htv)
      · rw [hp.valid_iff.2 htone] at htv
        cases htv
    · have htv := hst.not_valid hv htone
      have htl := hst.level_lt hl
      have ih := climb_spec (t.atLevel (t.level + 1)) (hst.fits hf) htv htl (htstuck htv)
        (fun h => absurd h htone)
      have hclimb : ∀ {v}, ComesTo (climb · (t.atLevel (t.level + 1))) v → ComesTo (climb · s) v :=
        fun h => ht.of_bind (by simpa only [if_neg htone] using h) (climb_succ hv hl)
      obtain ⟨k, hgive, hidle, hrun⟩ | ⟨u, k, hu, hrun, rfl | hp⟩ := ih
      · -- no reduction so far, so the statement is still the one of the start
        obtain rfl := hst.eq_of_idle hidle
        exact .inl ⟨k, hclimb hgive, hidle, hrun⟩
      · exact .inr ⟨t, k, hclimb hu, hrun, hst⟩
      · exact .inr ⟨u, k, hclimb hu, hrun, .inr (hst.trans_progress hp.of_level)⟩
  · right
    refine ⟨s, s.level, (comesTo_pure s).of_succ fun n => ?_,
      fun _ => run_eq_nil_of_stuckBelow hf (by omega) hstuck, .inl rfl⟩
    rw [climb, if_neg hl]
termination_by (weightOf s.statement, s.priorities - s.level)
decreasing_by
  rcases hst with rfl | hp
  · exact Prod.Lex.right _ (by simp only [atLevel_priorities, atLevel_level]; omega)
  · exact Prod.Lex.left _ _ hp.lighter

/-! ### What is recorded -/

/-- Each list is a reduction of the one before it, in the grammar that was in use. -/
def Trail : List Symbol → List Reduced → Prop
  | _, [] => True
  | st, r :: rs => r.grammar.grammar.Reduces st r.statement ∧ Trail r.statement rs

/-- The reductions of a turn, and after them those of the turns that follow. -/
theorem Trail.recorded_append {n : GrammarName} {stack : List Symbol} {steps : List (List Symbol)}
    {es : List Reduced}
    (hsteps : List.IsChain n.grammar.Reduces (stack.reverse :: steps.map List.reverse))
    (hes : Trail (endOf stack steps).reverse es) :
    Trail stack.reverse (recorded n steps ++ es) := by
  induction steps generalizing stack with
  | nil => exact hes
  | cons next steps ih =>
    rw [List.map_cons, List.isChain_cons_cons] at hsteps
    rw [endOf_cons] at hes
    exact ⟨hsteps.1, ih hsteps.2 hes⟩

theorem statements_recorded (n : GrammarName) (steps : List (List Symbol)) :
    (recorded n steps).map Reduced.statement = steps.map List.reverse := by
  simp [recorded]

/-! ### The turns -/

/-- The loops, started in `s`, end in `t` as the reduction `r` of the stack does, recording `es`. -/
structure EndsAs (s : Reducer) (r : Settled) (t : Reducer) (es : List Reduced) : Prop where
  comesTo : ComesTo (takeTurns · s) (if r.done then .ok t else .error (.unparsed .statement, t))
  valid_eq : t.isValid = r.done
  stack_eq : t.stack = r.final
  grammar_eq : t.grammar = r.grammar
  output_eq : t.output = s.output ++ es
  steps_eq : es.map Reduced.statement = r.steps.map List.reverse
  trail : Trail s.statement es

theorem Progress.run_ne_nil {s t : Reducer} (h : s.Progress t) (hv : s.isValid = false)
    (ht : t.prospect = (t.output, t.stack)) : s.grammar.grammar.run s.stack ≠ [] := by
  intro hnil
  have hp := h.prospect_eq
  rw [ht, prospect_of_stuck hv hnil, Prod.mk.injEq] at hp
  have hst : t.statement = s.statement := List.reverse_inj.1 hp.2
  have := h.lighter
  rw [hst] at this
  omega

/-- What a turn with reductions has recorded and left. -/
theorem Progress.prospect_run {s t : Reducer} (h : s.Progress t) (hv : s.isValid = false)
    (ht : t.prospect = (t.output, t.stack)) :
    t.output = s.output ++ recorded s.grammar (s.grammar.grammar.run s.stack) ∧
      t.stack = endOf s.stack (s.grammar.grammar.run s.stack) := by
  have hp := h.prospect_eq
  rw [ht] at hp
  simpa [prospect, hv] using hp

/-- A turn without a reduction is the last. -/
theorem endsAs_of_idle {s : Reducer} {k : Nat} (hv : s.isValid = false)
    (hrun : s.grammar.grammar.run s.stack = [])
    (hloop : ComesTo (takeTurns · s) (.error (.unparsed .statement, s.atLevel k))) :
    s.EndsAs (settle s.grammar s.stack) (s.atLevel k) [] := by
  rw [settle_of_idle hrun]
  exact ⟨hloop, hv, rfl, rfl, by simp, rfl, trivial⟩

/-- A turn that leaves one symbol is the last. -/
theorem endsAs_of_one {s t : Reducer} {k : Nat} (hv : s.isValid = false) (hp : s.Progress t)
    (htv : t.isValid = true) (hloop : ComesTo (takeTurns · s) (.ok (t.atLevel k))) :
    s.EndsAs (settle s.grammar s.stack) (t.atLevel k)
      (recorded s.grammar (s.grammar.grammar.run s.stack)) := by
  have ht : t.prospect = (t.output, t.stack) := by simp [prospect, htv]
  obtain ⟨hout, hstack⟩ := hp.prospect_run hv ht
  have hone : (endOf s.stack (s.grammar.grammar.run s.stack)).length = 1 := by
    rw [← hstack, stack, List.length_reverse]
    exact hp.valid_iff.1 htv
  rw [settle_of_one (hp.run_ne_nil hv ht) hone]
  refine ⟨hloop, htv, hstack, hp.grammar_eq, hout, statements_recorded _ _, ?_⟩
  have hnil : Trail (endOf s.stack (s.grammar.grammar.run s.stack)).reverse [] := trivial
  simpa [stack] using Trail.recorded_append (s.grammar.grammar.isChain_run s.stack) hnil

/-- A turn that got on but is stuck is followed by a turn of the other grammar. -/
theorem endsAs_of_switch {s t u : Reducer} {k : Nat} {es : List Reduced} (hv : s.isValid = false)
    (hp : s.Progress t) (htv : t.isValid = false) (hrun : t.grammar.grammar.run t.stack = [])
    (hloop : ∀ v, ComesTo (takeTurns · (t.atLevel k).switch) v → ComesTo (takeTurns · s) v)
    (hu : (t.atLevel k).switch.EndsAs (settle t.grammar.other t.stack) u es) :
    s.EndsAs (settle s.grammar s.stack) u
      (recorded s.grammar (s.grammar.grammar.run s.stack) ++ es) := by
  have ht := prospect_of_stuck htv hrun
  obtain ⟨hout, hstack⟩ := hp.prospect_run hv ht
  have hone : (endOf s.stack (s.grammar.grammar.run s.stack)).length ≠ 1 := by
    rw [← hstack, stack, List.length_reverse]
    intro h
    rw [hp.valid_iff.2 h] at htv
    cases htv
  rw [hstack, hp.grammar_eq] at hu
  rw [settle_of_stuck (hp.run_ne_nil hv ht) hone]
  refine ⟨hloop _ hu.comesTo, hu.valid_eq, hu.stack_eq, hu.grammar_eq, ?_, ?_, ?_⟩
  · rw [hu.output_eq]
    simp [switch, hout]
  · simp [hu.steps_eq, statements_recorded]
  · have htrail : Trail t.stack.reverse es := by simpa [stack, switch] using hu.trail
    rw [hstack] at htrail
    have := Trail.recorded_append (s.grammar.grammar.isChain_run s.stack) htrail
    simpa [stack] using this

theorem comesTo_takeTurns_of_valid {s : Reducer} (hv : s.isValid = true) :
    ComesTo (takeTurns · s) (.ok s) := by
  refine (comesTo_pure s).of_succ fun n => ?_
  rw [takeTurns, if_pos hv]

theorem takeTurns_succ {s : Reducer} (hv : s.isValid = false) (n : Nat) :
    takeTurns (n + 1) s = climb n (s.atLevel 0) >>= fun t =>
      if !t.isValid && !t.isIdle then takeTurns n t.switch
      else if !t.isValid then throw (.unparsed .statement, t)
      else takeTurns n t := by
  rw [takeTurns, hv, if_neg (by simp)]

theorem isIdle_switch {s t : Reducer} (h : s.Progress t) (k : Nat) :
    (t.atLevel k).switch.isIdle = true := by
  rw [isIdle, switch, atLevel, h.byStatement_eq, h.byProgram_eq]
  cases t.grammar <;> rfl

/-- **The turns come to an end**, where the reduction of the stack does. -/
theorem takeTurns_spec (s : Reducer) (hf : s.Fits) (hv : s.isValid = false)
    (hidle : s.isIdle = true) : ∃ t es, s.EndsAs (settle s.grammar s.stack) t es := by
  obtain ⟨k, hgive, -, hrun⟩ | ⟨t, k, ht, hrun, rfl | hp⟩ :=
    climb_spec (s.atLevel 0) hf hv (Nat.zero_le _) (stuckBelow_zero _) (fun _ => rfl)
  · exact ⟨_, _, endsAs_of_idle hv hrun (hgive.of_bind_error (takeTurns_succ hv))⟩
  · refine ⟨_, _, endsAs_of_idle (k := k) hv (hrun hv) (ht.of_bind ?_ (takeTurns_succ hv))⟩
    have hlast : ((s.atLevel 0).atLevel k).isIdle = true := hidle
    have hnot : ((s.atLevel 0).atLevel k).isValid = false := hv
    simp only [hlast, hnot, Bool.not_true, Bool.and_false, Bool.not_false, if_true]
    exact comesTo_throw _
  · have hps : s.Progress t := hp.of_level
    by_cases htv : t.isValid = true
    · refine ⟨_, _, endsAs_of_one (k := k) hv hps htv (ht.of_bind ?_ (takeTurns_succ hv))⟩
      simp only [atLevel_isValid, htv, Bool.not_true, Bool.false_and]
      exact comesTo_takeTurns_of_valid htv
    · have htf : t.isValid = false := by simpa using htv
      have hlt := hps.lighter
      obtain ⟨u, es, hu⟩ := takeTurns_spec (t.atLevel k).switch rfl htf (isIdle_switch hps k)
      refine ⟨u, _, endsAs_of_switch hv hps htf (hrun htf) (fun v h => ?_) hu⟩
      refine ht.of_bind ?_ (takeTurns_succ hv)
      simpa [htf, hps.not_idle] using h
termination_by weightOf s.statement

/-- **Where a whole reduction ends**, whatever the state it is started in. -/
theorem iterate_spec (s : Reducer) (hf : s.Fits) :
    ∃ t es, ComesTo (iterate · s) (if (reduceStatement s.grammar s.statement).done then .ok t
        else .error (.unparsed .statement, t)) ∧
      t.isValid = (reduceStatement s.grammar s.statement).done ∧
      t.statement = (reduceStatement s.grammar s.statement).final ∧
      t.output = s.output ++ es ∧
      es.map Reduced.statement = (reduceStatement s.grammar s.statement).steps ∧
      Trail s.statement es := by
  obtain ⟨t, es, h⟩ := takeTurns_spec
    { s with byProgram := false, byStatement := false, isValid := false } hf rfl rfl
  refine ⟨t, es, h.comesTo, h.valid_eq, ?_, h.output_eq, h.steps_eq, h.trail⟩
  have := congrArg List.reverse h.stack_eq
  simpa [stack, reduceStatement] using this

/-! ### The two outcomes -/

/-- **A reduction ends in one of two ways.** Started on any list of symbols with either grammar, and
with as many priorities as the grammar has levels, the loops come to an end: with a single symbol
that is marked as valid, or with the statement not parsed; no look-up fails. Which of the two it is,
and what is left, is what `reduceStatement` says. -/
theorem iterate_outcome (s : Reducer) (hf : s.priorities = s.grammar.grammar.levels.length) :
    (∃ t, ComesTo (iterate · s) (.ok t) ∧ t.statement.length = 1 ∧ t.isValid = true ∧
      (reduceStatement s.grammar s.statement).done = true ∧
      (reduceStatement s.grammar s.statement).final = t.statement) ∨
    (∃ t, ComesTo (iterate · s) (.error (.unparsed .statement, t)) ∧
      (reduceStatement s.grammar s.statement).done = false ∧
      (reduceStatement s.grammar s.statement).final = t.statement) := by
  obtain ⟨t, es, hloop, hvalid, hfinal, -, -, -⟩ := iterate_spec s hf
  cases hd : (reduceStatement s.grammar s.statement).done with
  | true =>
    left
    obtain ⟨-, x, hx, -⟩ := reduceStatement_of_done hd
    rw [hd, if_pos rfl] at hloop
    exact ⟨t, hloop, by rw [hfinal, hx]; rfl, hvalid.trans hd, rfl, hfinal.symm⟩
  | false =>
    right
    rw [hd] at hloop
    exact ⟨t, hloop, rfl, hfinal.symm⟩

/-- An assignment of a function: it takes three turns, one of the program grammar between two of the
statement grammar. -/
def functionAssignment : Reducer where
  statement := [.ident, .equals, .functionWord, .openParen, .closeParen, .endFunctionWord]
  grammar := .statement
  priorities := 7

theorem iterate_outcome_functionAssignment :
    functionAssignment.priorities = functionAssignment.grammar.grammar.levels.length ∧
      ∃ t, ComesTo (iterate · functionAssignment) (.ok t) ∧ t.statement = [.assignment] := by
  refine ⟨rfl, ?_⟩
  obtain ⟨t, ht, -, -, -, hfinal⟩ | ⟨t, -, hdone, -⟩ := iterate_outcome functionAssignment rfl
  · exact ⟨t, ht, hfinal.symm.trans (by decide +kernel)⟩
  · exact absurd hdone (by decide +kernel)

/-! ### The record of a reduction -/

theorem Trail.reducesTo {st : List Symbol} {es : List Reduced} (h : Trail st es) :
    ReducesTo st (endOf st (es.map Reduced.statement)) := by
  induction es generalizing st with
  | nil => exact .refl
  | cons r es ih =>
    rw [List.map_cons, endOf_cons]
    exact .head ⟨r.grammar, h.1⟩ (ih h.2)

/-- **Every recorded reduction is a step of the grammar in use.** The loops add to the output lists
`es` of which each comes from the one before it, the first from the statement, by one production of
the grammar that it is recorded with. If they return, the last list is a single symbol, and this
symbol derives the statement. The lists are those of `reduceStatement`. -/
theorem iterate_trail (s : Reducer) (hf : s.priorities = s.grammar.grammar.levels.length) :
    ∃ t es, ComesTo (iterate · s) (if (reduceStatement s.grammar s.statement).done then .ok t
        else .error (.unparsed .statement, t)) ∧
      t.output = s.output ++ es ∧ Trail s.statement es ∧
      es.map Reduced.statement = (reduceStatement s.grammar s.statement).steps ∧
      (ComesTo (iterate · s) (.ok t) →
        ∃ x, es.getLast?.map Reduced.statement = some [x] ∧ Derives x s.statement) := by
  obtain ⟨t, es, hloop, -, -, hout, hsteps, htrail⟩ := iterate_spec s hf
  refine ⟨t, es, hloop, hout, htrail, hsteps, fun hok => ?_⟩
  have hd : (reduceStatement s.grammar s.statement).done = true := by
    by_contra hd
    rw [if_neg hd] at hloop
    cases hok.unique hloop
  obtain ⟨hne, x, hx, -⟩ := reduceStatement_of_done hd
  have hend := final_reduceStatement s.grammar s.statement
  rw [hx, ← hsteps] at hend
  rw [← hsteps] at hne
  refine ⟨x, ?_, ?_⟩
  · rw [← List.getLast?_map, List.getLast?_eq_some_getLast hne]
    rw [endOf, List.getLast?_eq_some_getLast hne] at hend
    exact congrArg some hend.symm
  · have hred := htrail.reducesTo
    rwa [← hend] at hred

theorem iterate_trail_functionAssignment :
    functionAssignment.priorities = functionAssignment.grammar.grammar.levels.length ∧
      ∃ t, ComesTo (iterate · functionAssignment) (.ok t) ∧
        Trail functionAssignment.statement t.output ∧
        t.output.map Reduced.statement =
          [[.ident, .equals, .functionWord, .openParen, .closeParen, .endFunction],
           [.ident, .equals, .anonymousHead, .endFunction],
           [.ident, .equals, .anonymousFunction],
           [.assignment]] ∧
        Derives .assignment functionAssignment.statement := by
  refine ⟨rfl, ?_⟩
  obtain ⟨t, es, hloop, hout, htrail, hsteps, hok⟩ := iterate_trail functionAssignment rfl
  have hdone :
      (reduceStatement functionAssignment.grammar functionAssignment.statement).done = true := by
    decide +kernel
  rw [hdone, if_pos rfl] at hloop
  obtain rfl : t.output = es := hout
  have hlists := hsteps.trans (by decide +kernel : _ =
    [[.ident, .equals, .functionWord, .openParen, .closeParen, .endFunction],
     [.ident, .equals, .anonymousHead, .endFunction], [.ident, .equals, .anonymousFunction],
     [.assignment]])
  obtain ⟨x, hx, hder⟩ := hok hloop
  rw [← List.getLast?_map, hlists] at hx
  cases hx
  exact ⟨t, hloop, htrail, hlists, hder⟩

end Reducer

end BrightLint
