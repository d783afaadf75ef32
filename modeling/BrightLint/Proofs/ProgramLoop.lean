import BrightLint.Proofs.ProgramEnd
import BrightLint.Proofs.ReducerLoop

/-!
The loops that reduce a program either leave one symbol or give up. The mark of a valid program is
set after every reduction, so it says little by itself. But the loops cannot come back from a
reduction unless one symbol is left: the innermost of them starts unmarked, and if nothing applies
any more it gives up, and all the others with it.

* `reduceProgram_of_none`, `reduceProgram_of_one`, `reduceProgram_of_many`: a program is reduced
  step by step
* `Reducer.joinFrom_spec`: what the loops come to
* `Parsing.checkProgram_outcome`: the two ways in which the check of a program ends
-/

namespace BrightLint

open Relation

/-! ### A program is reduced step by step -/

section Steps

variable {st next : List Symbol}

theorem reduceProgram_of_none (h : Grammar.program.reduce? st.reverse = none) :
    reduceProgram st = ⟨[], st, .program, false⟩ := by
  simp [reduceProgram, Grammar.run_of_none h, endOf]

theorem reduceProgram_of_one (h : Grammar.program.reduce? st.reverse = some next.reverse)
    (hone : next.length = 1) : reduceProgram st = ⟨[next], next, .program, true⟩ := by
  simp [reduceProgram, Grammar.run_of_some h, hone, endOf]

theorem reduceProgram_of_many (h : Grammar.program.reduce? st.reverse = some next.reverse)
    (hone : next.length ≠ 1) :
    reduceProgram st =
      { reduceProgram next with steps := next :: (reduceProgram next).steps } := by
  have hdone : (reduceProgram next).done = ((reduceProgram next).final.length == 1) := by
    cases hs : (Grammar.program.run next.reverse).map List.reverse with
    | nil => simp [reduceProgram, hs, endOf, hone]
    | cons a as => simp [reduceProgram, hs]
  have hrun : (Grammar.program.run st.reverse).map List.reverse =
      next :: (reduceProgram next).steps := by
    simp [reduceProgram, Grammar.run_of_some h, hone]
  rw [reduceProgram, hrun, endOf_cons]
  simp only [hdone]
  rfl

/-- The lists on the way are reductions one of the other, and the last is what is left. -/
theorem isChain_reduceProgram (st : List Symbol) :
    List.IsChain Grammar.program.Reduces (st :: (reduceProgram st).steps) := by
  simpa [reduceProgram] using Grammar.program.isChain_run st.reverse

/-- What is left of a program that is not reduced to the end is left by the reducer for good. -/
theorem reduce?_final_of_undone (st : List Symbol) (h : (reduceProgram st).done = false) :
    Grammar.program.reduce? (reduceProgram st).final.reverse = none := by
  cases hn : Grammar.program.reduce? st.reverse with
  | none =>
    rw [reduceProgram_of_none hn]
    exact hn
  | some stack =>
    obtain ⟨next, rfl⟩ : ∃ next : List Symbol, stack = next.reverse :=
      ⟨stack.reverse, stack.reverse_reverse.symm⟩
    have hlighter : weightOf next < weightOf st := by simpa using Grammar.weightOf_reduce?_lt hn
    by_cases hone : next.length = 1
    · rw [reduceProgram_of_one hn hone] at h
      cases h
    · rw [reduceProgram_of_many hn hone] at h ⊢
      exact reduce?_final_of_undone next h
termination_by weightOf st

/-- Where the reducer finds nothing, no production applies anywhere. -/
theorem not_reduces_of_reduce?_none (h : Grammar.program.reduce? st.reverse = none) :
    ¬ Grammar.program.Reduces st next := by
  rintro ⟨p, hp, u, v, rfl, -⟩
  have hfiled : ∀ q ∈ Grammar.program.productions, ∃ t ∈ q.rhs.getLast?,
      q ∈ Grammar.blocks.filed t := by decide +kernel
  obtain ⟨t, ht, hpt⟩ := hfiled p hp
  rw [reduce?_program] at h
  refine Level.reduce?_ne_none v.reverse u.reverse hpt ht ?_
  simpa using h

end Steps

namespace Reducer

/-! ### The loops over the places of a program -/

/-- The loops are at work on a program, by its own grammar. -/
structure OnProgram (s : Reducer) : Prop where
  grammar_eq : s.grammar = .program
  priorities_eq : s.priorities = Grammar.program.levels.length
  level_eq : s.level = 0

section Join

variable {i : Nat} {s t : Reducer} {p : Production} {st : List Symbol}
  {v : Except (Fault × Reducer) Reducer}

theorem OnProgram.levels (hs : s.OnProgram) :
    s.grammar.grammar.levels[s.level]? = some Grammar.blocks := by
  rw [hs.grammar_eq, hs.level_eq]
  rfl

theorem OnProgram.join (hs : s.OnProgram) (st : List Symbol) :
    OnProgram { s.join st with isValid := false } :=
  ⟨hs.grammar_eq, hs.priorities_eq, rfl⟩

theorem comesTo_joinFrom_of_valid (hv : s.isValid = true) (hi : s.statement.length ≤ i) :
    ComesTo (joinFrom · i s) (.ok s) := by
  refine (comesTo_pure s).of_succ fun n => ?_
  rw [joinFrom, if_neg (by omega), hv]
  rfl

theorem comesTo_joinFrom_of_none (hi : i < s.statement.length) (hfind : s.find i = .ok none)
    (h : ComesTo (joinFrom · (i + 1) s) v) : ComesTo (joinFrom · i s) v := by
  refine h.of_succ fun n => ?_
  rw [joinFrom, if_pos hi, hfind]

theorem comesTo_joinFrom_of_one (hi : i < s.statement.length)
    (hfind : s.find i = .ok (some (p, st))) (hone : st.length = 1)
    (h : ComesTo (joinFrom · (i + 1) { s.join st with isValid := true }) v) :
    ComesTo (joinFrom · i s) v := by
  refine h.of_succ fun n => ?_
  rw [joinFrom, if_pos hi, hfind]
  simp only [hone, if_true]

theorem joinFrom_of_many (hi : i < s.statement.length)
    (hfind : s.find i = .ok (some (p, st))) (hone : st.length ≠ 1) (n : Nat) :
    joinFrom (n + 1) i s = joinFrom n 0 { s.join st with isValid := false } >>=
      fun t => joinFrom n (i + 1) { t with isValid := true } := by
  rw [joinFrom, if_pos hi, hfind]
  simp only [hone, if_false]

end Join

/-- The loops, at the place before the last `i` symbols, end in `t` as the reduction `r` does. -/
structure JoinsAs (i : Nat) (s : Reducer) (r : Settled) (t : Reducer) : Prop where
  comesTo : ComesTo (joinFrom · i s) (if r.done then .ok t else .error (.unparsed .statement, t))
  valid_eq : t.isValid = r.done
  statement_eq : t.statement = r.final
  output_eq : t.output = s.output ++ r.steps.map (Reduced.mk .program)

/-- After a reduction the loops end where the reduction of the shorter program does. They come back
to the other places only if one symbol is left, and then there is no other place. -/
theorem joinsAs_of_found {i : Nat} {s : Reducer} {p : Production} {st : List Symbol}
    (hg : s.grammar = .program) (hi : i < s.statement.length)
    (hfind : s.find i = .ok (some (p, st)))
    (hred : Grammar.program.reduce? s.statement.reverse = some st.reverse)
    (ih : ∃ t, JoinsAs 0 { s.join st with isValid := false } (reduceProgram st) t) :
    ∃ t, JoinsAs i s (reduceProgram s.statement) t := by
  by_cases hone : st.length = 1
  · rw [reduceProgram_of_one hred hone]
    refine ⟨{ s.join st with isValid := true }, ?_, rfl, rfl, by simp [join, hg]⟩
    exact comesTo_joinFrom_of_one hi hfind hone
      (comesTo_joinFrom_of_valid rfl (by simp [join, hone]))
  · obtain ⟨t, hloop, hvalid, hfinal, hout⟩ := ih
    have hout' : t.output =
        s.output ++ (st :: (reduceProgram st).steps).map (Reduced.mk .program) := by
      simpa [join, hg] using hout
    rw [reduceProgram_of_many hred hone]
    cases hd : (reduceProgram st).done with
    | true =>
      rw [hd, if_pos rfl] at hloop
      have hleft : t.statement.length = 1 := by
        obtain ⟨-, x, hx, -⟩ := reduceProgram_of_done hd
        rw [hfinal, hx]
        rfl
      refine ⟨{ t with isValid := true }, ?_, by simp [hd], hfinal, hout'⟩
      simp only [hd, if_true]
      refine hloop.of_bind (f := fun n u => joinFrom n (i + 1) { u with isValid := true }) ?_
        (joinFrom_of_many hi hfind hone)
      exact comesTo_joinFrom_of_valid rfl (by simp only [hleft]; omega)
    | false =>
      rw [hd] at hloop
      refine ⟨t, ?_, hvalid, hfinal, hout'⟩
      simp only [hd]
      exact hloop.of_bind_error (joinFrom_of_many hi hfind hone)

/-- **The loops over a program come to an end**, where the reduction of the program does: they
return if one symbol is left and give up if not. -/
theorem joinFrom_spec (i : Nat) (s : Reducer) (hs : s.OnProgram) (hv : s.isValid = false)
    (ht : s.Tried i) : ∃ t, JoinsAs i s (reduceProgram s.statement) t := by
  by_cases hi : i < s.statement.length
  · have hfind := find_eq hs.levels hi
    cases hm : Grammar.blocks.matchAt? (s.stack.drop i) with
    | none =>
      rw [hm, Option.map_none] at hfind
      obtain ⟨t, h⟩ := joinFrom_spec (i + 1) s hs hv (tried_succ hs.levels ht hm)
      exact ⟨t, { h with comesTo := comesTo_joinFrom_of_none hi hfind h.comesTo }⟩
    | some q =>
      rw [hm, Option.map_some] at hfind
      have hred := reduce?_of_found hs.levels ht hm
      have hlighter : weightOf (s.join (spliceAt i q.1 s.statement)).statement <
          weightOf s.statement := by
        simpa [stack, join] using Grammar.weightOf_reduce?_lt hred
      rw [hs.grammar_eq] at hred
      exact joinsAs_of_found hs.grammar_eq hi hfind hred
        (joinFrom_spec 0 _ (hs.join _) rfl (tried_zero (stuckBelow_zero _)))
  · have hnone : Grammar.program.reduce? s.statement.reverse = none := by
      have hstuck := stuckBelow_succ ⟨ht.levels, fun m hm j hj => ht.places m hm j (by omega)⟩
      rw [reduce?_program]
      exact hstuck s.level (by omega) _ hs.levels
    rw [reduceProgram_of_none hnone]
    refine ⟨s, (comesTo_throw _).of_succ fun n => ?_, hv, rfl, by simp⟩
    rw [joinFrom, if_neg hi, if_pos]
    simp [hv, hs.level_eq, hs.priorities_eq, Grammar.program]
termination_by (weightOf s.statement, s.statement.length - i)

theorem ComesTo.adapt {x : Nat → Loop} {v : Except (Fault × Reducer) Reducer} (h : ComesTo x v)
    (f : Fault × Reducer → Fault × Reducer) : ComesTo (fun n => (x n).adapt f) (v.mapError f) := by
  obtain ⟨n, hn⟩ := h
  refine ⟨n, fun m hm => ?_⟩
  change (x m).run.map (Except.mapError f) = _
  rw [hn m hm]
  rfl

/-- **The whole check of a program**, whatever the state that it starts in. -/
theorem conclude_spec (s : Reducer) (hblock : s.statement ≠ [.block]) :
    ∃ t, ComesTo (conclude · s) (if (reduceProgram s.statement).done then .ok t
        else .error (.unparsed .program, t)) ∧
      t.statement = (reduceProgram s.statement).final ∧
      t.output = s.output ++ (reduceProgram s.statement).steps.map (Reduced.mk .program) := by
  obtain ⟨t, h⟩ := joinFrom_spec 0
    { s with
      grammar := .program, priorities := Grammar.program.levels.length, level := 0,
      isValid := false }
    ⟨rfl, rfl, rfl⟩ rfl (tried_zero (stuckBelow_zero _))
  refine ⟨t, ?_, h.statement_eq, h.output_eq⟩
  have hloop := h.comesTo.adapt fun e => (asProgram e.1, e.2)
  simp only [conclude, if_neg hblock]
  cases hd : (reduceProgram s.statement).done <;> rw [hd] at hloop <;> exact hloop

end Reducer

/-! ### The two outcomes -/

namespace Parsing

/-- How the check of the program of `s` went, which led to `s'`, and the loops from `l` to `t`: the
lists `steps` were recorded, of which each comes from the one before it by one production of the
program grammar, and `q` is what is left. -/
structure Concluded (s s' : Parsing) (l t : Reducer) (steps : List (List Symbol))
    (q : List Symbol) : Prop where
  chain : List.IsChain Grammar.program.Reduces (s.program :: steps)
  last_eq : endOf s.program steps = q
  program_eq : s'.program = q
  current_eq : s'.current = q
  steps_eq : s'.programSteps = s.programSteps ++ steps
  statement_eq : t.statement = q
  output_eq : t.output = l.output ++ steps.map (Reduced.mk .program)

/-- The check of a program that is not a single block. -/
theorem checkProgram_of_ne {s : Parsing} (hblock : s.program ≠ [.block]) :
    ∃ s', checkProgram s.layProgram = (if (reduceProgram s.program).done then .ok true s'
        else .error (.unparsed .program) s') ∧
      s'.program = (reduceProgram s.program).final ∧
      s'.current = (reduceProgram s.program).final ∧
      s'.programSteps = s.programSteps ++ (reduceProgram s.program).steps := by
  have hcurrent : s.layProgram.current = s.program := rfl
  rw [checkProgram, hcurrent, if_neg hblock]
  exact ⟨_, rfl, rfl, rfl, rfl⟩

/-- **A program is reduced to one symbol or not at all.** Whatever the program, the empty one
included, and whatever state the loops start in, they come to an end, in one of two ways. Either the
check returns, and a single symbol is left, which derives the program by productions of the program
grammar alone. Or the program is not parsed; what is left then is stuck: no production applies to
it. In both cases each list that is recorded comes from the one before it by one production. -/
theorem checkProgram_outcome (s : Parsing) (l : Reducer) :
    (∃ reduced s' t steps x, checkProgram s.layProgram = .ok reduced s' ∧
      Reducer.ComesTo (Reducer.conclude · { l with statement := s.program }) (.ok t) ∧
      s.Concluded s' l t steps [x] ∧ ReflTransGen Grammar.program.Reduces s.program [x]) ∨
    (∃ s' t steps q, checkProgram s.layProgram = .error (.unparsed .program) s' ∧
      Reducer.ComesTo (Reducer.conclude · { l with statement := s.program })
        (.error (.unparsed .program, t)) ∧
      s.Concluded s' l t steps q ∧ ∀ next, ¬ Grammar.program.Reduces q next) := by
  have hcurrent : s.layProgram.current = s.program := rfl
  by_cases hblock : s.program = [.block]
  · -- a single block is left alone
    refine .inl ⟨false, s.layProgram, { l with statement := s.program }, [], .block, ?_, ?_, ?_, ?_⟩
    · rw [checkProgram, hcurrent, if_pos hblock]
    · refine ⟨0, fun n _ => ?_⟩
      simp only [Reducer.conclude, if_pos hblock]
      rfl
    · exact ⟨by simp, hblock, hblock, hcurrent.trans hblock, by simp [layProgram], hblock, by simp⟩
    · rw [hblock]
  · obtain ⟨s', hcheck, hprogram, hcur, hsteps⟩ := checkProgram_of_ne hblock
    obtain ⟨t, hloop, hstatement, hout⟩ :=
      Reducer.conclude_spec { l with statement := s.program } hblock
    have hconcluded : s.Concluded s' l t (reduceProgram s.program).steps
        (reduceProgram s.program).final :=
      ⟨isChain_reduceProgram s.program, rfl, hprogram, hcur, hsteps, hstatement, hout⟩
    cases hd : (reduceProgram s.program).done with
    | true =>
      obtain ⟨-, x, hx, -⟩ := reduceProgram_of_done hd
      have hreduces := reducesTo_reduceProgram s.program
      rw [hx] at hconcluded hreduces
      rw [hd] at hcheck hloop
      exact .inl ⟨true, s', t, _, x, hcheck, hloop, hconcluded, hreduces⟩
    | false =>
      rw [hd] at hcheck hloop
      refine .inr ⟨s', t, _, _, hcheck, hloop, hconcluded, fun next => ?_⟩
      exact not_reduces_of_reduce?_none (reduce?_final_of_undone s.program hd)

end Parsing

end BrightLint
