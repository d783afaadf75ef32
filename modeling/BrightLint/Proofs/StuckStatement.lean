import BrightLint.Proofs.ReducerLoop

/-!
What is left of a statement that the loops of the reducer give up. They give up in two places, after
the last level of a turn without a reduction and after a level that leaves a single symbol alone,
and in both the grammar in use has nothing left to do: at no place of the statement does a
right-hand side end that is filed under the symbol there. If there was a reduction at all, neither
has the other grammar, whose turn ended on the same statement.

* `Grammar.IsStuckOn`: no production of a grammar applies anywhere in a statement
* `Grammar.isStuckOn_iff`: this is when the reducer finds nothing
* `settle_of_undone`: what is left by the turns of the grammars
* `Reducer.comesTo_of_run`: a loop that has ended does not change with more rounds
* `Reducer.iterate_isStuckOn`: the loops do not give up early
-/

namespace BrightLint

/-! ### Where nothing applies -/

/-- **A level finds nothing** exactly if no right-hand side ends at a place of the statement, among
those that are filed under the symbol at the place. -/
theorem Level.reduce?_reverse_eq_none_iff {l : Level} {st : List Symbol} :
    l.reduce? st.reverse = none ↔
      ∀ u x v, st = u ++ x :: v → ∀ p ∈ l.filed x, ¬ p.rhs <:+ u ++ [x] := by
  constructor
  · rintro h u x v rfl p hp ⟨w, hw⟩
    have hdrop : (u ++ x :: v).reverse.drop v.length = x :: u.reverse := by
      rw [List.reverse_append, List.reverse_cons, List.append_assoc, List.drop_left' (by simp)]
      rfl
    have hmatch := matchAt?_drop_of_reduce? h v.length
    rw [hdrop] at hmatch
    have hnone := List.findSome?_eq_none_iff.1 hmatch p hp
    have hbelow : p.below? (x :: u.reverse) = some w.reverse := by
      rw [Production.below?_eq_some_iff, ← List.reverse_append, hw]
      simp
    rw [hbelow] at hnone
    cases hnone
  · intro h
    refine reduce?_eq_none_of_length fun j hj => ?_
    cases hd : st.reverse.drop j with
    | nil => rfl
    | cons x below =>
      -- the stack from the place on, and what lies above it
      have hst : st = below.reverse ++ x :: (st.reverse.take j).reverse := by
        have hcut := congrArg List.reverse (List.take_append_drop j st.reverse)
        rw [hd, List.reverse_reverse] at hcut
        simpa using hcut.symm
      refine List.findSome?_eq_none_iff.2 fun p hp => Option.map_eq_none_iff.2 ?_
      rw [Option.eq_none_iff_forall_not_mem]
      intro rest hrest
      refine h _ x _ hst p hp ⟨rest.reverse, ?_⟩
      have hcut := congrArg List.reverse (Production.below?_eq_some_iff.1 hrest)
      simpa using hcut.symm

/-- No production of a grammar applies anywhere in a statement: whatever the level and the place,
the symbols that end there are not the right-hand side of a production filed under the symbol at the
place. -/
def Grammar.IsStuckOn (g : Grammar) (st : List Symbol) : Prop :=
  ∀ l ∈ g.levels, ∀ u x v, st = u ++ x :: v → ∀ p ∈ l.filed x, ¬ p.rhs <:+ u ++ [x]

theorem Grammar.isStuckOn_iff {g : Grammar} {st : List Symbol} :
    g.IsStuckOn st ↔ g.reduce? st.reverse = none := by
  rw [Grammar.reduce?, List.findSome?_eq_none_iff]
  exact forall₂_congr fun l _ => Level.reduce?_reverse_eq_none_iff.symm

/-! ### Where the turns end -/

/-- A run that leaves more or fewer symbols than one has nothing left to do. -/
theorem Grammar.reduce?_endOf_run {g : Grammar} {stack : List Symbol}
    (h : (endOf stack (g.run stack)).length ≠ 1) :
    g.reduce? (endOf stack (g.run stack)) = none := by
  cases hn : g.reduce? stack with
  | none => rwa [run_of_none hn]
  | some next =>
    have hlighter := weightOf_reduce?_lt hn
    rw [run_of_some hn, endOf_cons] at h ⊢
    split at h
    · exact absurd ‹next.length = 1› h
    · rw [if_neg ‹_›]
      exact reduce?_endOf_run h
termination_by weightOf stack

theorem GrammarName.other_other (n : GrammarName) : n.other.other = n := by
  cases n <;> rfl

/-- **What is left by the turns of the grammars**, if more than one symbol is left: the grammar in
use has nothing to do, and neither has the other one, unless there was no reduction at all. -/
theorem settle_of_undone {n : GrammarName} {stack : List Symbol}
    (h : (settle n stack).done = false) :
    (settle n stack).grammar.grammar.reduce? (settle n stack).final = none ∧
      ((settle n stack).steps ≠ [] →
        (settle n stack).grammar.other.grammar.reduce? (settle n stack).final = none) := by
  by_cases hs : n.grammar.run stack = []
  · rw [settle_of_idle hs]
    exact ⟨Grammar.run_eq_nil_iff.1 hs, fun hne => absurd rfl hne⟩
  · by_cases hone : (endOf stack (n.grammar.run stack)).length = 1
    · rw [settle_of_one hs hone] at h
      cases h
    · have hlighter := n.grammar.weightOf_endOf_run_lt stack hs
      rw [settle_of_stuck hs hone] at h ⊢
      obtain ⟨hcurrent, hother⟩ := settle_of_undone h
      refine ⟨hcurrent, fun _ => ?_⟩
      by_cases hidle : n.other.grammar.run (endOf stack (n.grammar.run stack)) = []
      · -- the last turn was idle, so the statement is the one that the turn before it left
        rw [settle_of_idle hidle]
        simp only [GrammarName.other_other]
        exact Grammar.reduce?_endOf_run hone
      · refine hother fun hnil => hidle ?_
        by_cases hlast : (endOf (endOf stack (n.grammar.run stack))
            (n.other.grammar.run (endOf stack (n.grammar.run stack)))).length = 1
        · rw [settle_of_one hidle hlast] at hnil
          exact hnil
        · rw [settle_of_stuck hidle hlast] at hnil
          exact (List.append_eq_nil_iff.1 hnil).1
termination_by weightOf stack

/-- **A statement that is not reduced to one symbol** is left with nothing to do. -/
theorem isStuckOn_of_undone {n : GrammarName} {st : List Symbol}
    (h : (reduceStatement n st).done = false) :
    (reduceStatement n st).grammar.grammar.IsStuckOn (reduceStatement n st).final ∧
      ((reduceStatement n st).steps ≠ [] →
        (reduceStatement n st).grammar.other.grammar.IsStuckOn (reduceStatement n st).final) := by
  have hundone : (settle n st.reverse).done = false := h
  obtain ⟨hcurrent, hother⟩ := settle_of_undone hundone
  simp only [Grammar.isStuckOn_iff]
  refine ⟨by simpa [reduceStatement] using hcurrent, fun hsteps => ?_⟩
  simpa [reduceStatement] using hother (by simpa [reduceStatement] using hsteps)

namespace Reducer

/-! ### More rounds -/

/-- Where the first loop has come to an end, the second has come to the same end. -/
def Outlasts (y x : Loop) : Prop := ∀ v, x.run = some v → y.run = some v

section Outlasts

variable {x y : Loop} {f g : Reducer → Loop}

theorem outlasts_refl (x : Loop) : Outlasts x x := fun _ h => h

theorem outlasts_unfinished (y : Loop) : Outlasts y unfinished := fun _ h => by cases h

theorem Outlasts.bind (hx : Outlasts y x) (hf : ∀ t, Outlasts (g t) (f t)) :
    Outlasts (y >>= g) (x >>= f) := by
  intro v h
  cases hrun : x.run with
  | none =>
    have hunfinished : x = unfinished := hrun
    rw [hunfinished] at h
    cases h
  | some w =>
    have hy := hx w hrun
    cases w with
    | error e =>
      have hxe : x = throw e := hrun
      have hye : y = throw e := hy
      rw [hxe] at h
      rw [hye]
      exact h
    | ok t =>
      have hxt : x = pure t := hrun
      have hyt : y = pure t := hy
      rw [hxt, pure_bind] at h
      rw [hyt, pure_bind]
      exact hf t v h

end Outlasts

theorem outlasts_sweepFrom (n i : Nat) (s : Reducer) :
    Outlasts (sweepFrom (n + 1) i s) (sweepFrom n i s) := by
  induction n generalizing i s with
  | zero => exact outlasts_unfinished _
  | succ n ih =>
    unfold sweepFrom
    split
    · split
      · exact outlasts_refl _
      · exact ih _ _
      · split
        · exact ih _ _
        · exact (ih _ _).bind fun t => ih _ _
    · exact outlasts_refl _

theorem outlasts_climb (n : Nat) (s : Reducer) : Outlasts (climb (n + 1) s) (climb n s) := by
  induction n generalizing s with
  | zero => exact outlasts_unfinished _
  | succ n ih =>
    unfold climb
    split
    · refine Outlasts.bind (outlasts_sweepFrom n 0 _) fun t => ?_
      split
      · exact outlasts_refl _
      · exact ih _
    · exact outlasts_refl _

theorem outlasts_takeTurns (n : Nat) (s : Reducer) :
    Outlasts (takeTurns (n + 1) s) (takeTurns n s) := by
  induction n generalizing s with
  | zero => exact outlasts_unfinished _
  | succ n ih =>
    unfold takeTurns
    split
    · exact outlasts_refl _
    · refine Outlasts.bind (outlasts_climb n _) fun t => ?_
      split
      · exact ih _
      · split
        · exact outlasts_refl _
        · exact ih _

/-- **A loop that has come to an end** does not change with more rounds. -/
theorem comesTo_of_run {x : Nat → Loop} (hx : ∀ n, Outlasts (x (n + 1)) (x n)) {n : Nat}
    {v : Except (Fault × Reducer) Reducer} (h : (x n).run = some v) : ComesTo x v := by
  refine ⟨n, fun m hm => ?_⟩
  induction m, hm using Nat.le_induction with
  | base => exact h
  | succ m _ ih => exact hx m v ih

/-! ### The loops do not give up early -/

/-- **The loops give up only where nothing is left to do.** Whatever the symbols and the grammar
that they start with, if the loops fail then no production of the grammar in use at that moment
applies anywhere in what is left of the statement, at any level. Nor does one of the other grammar,
if there was a reduction at all. What is left is what `reduceStatement` leaves, in the same
grammar. -/
theorem iterate_isStuckOn (s : Reducer) (hf : s.priorities = s.grammar.grammar.levels.length)
    (n : Nat) (f : Fault) (t : Reducer) (h : (iterate n s).run = some (.error (f, t))) :
    t.grammar.grammar.IsStuckOn t.statement ∧
      (t.output ≠ s.output → t.grammar.other.grammar.IsStuckOn t.statement) ∧
      f = .unparsed .statement ∧ (reduceStatement s.grammar s.statement).done = false ∧
      (reduceStatement s.grammar s.statement).final = t.statement ∧
      (reduceStatement s.grammar s.statement).grammar = t.grammar := by
  obtain ⟨t', es, hends⟩ := takeTurns_spec
    { s with byProgram := false, byStatement := false, isValid := false } hf rfl rfl
  have hturns : ComesTo (iterate · s) (if (reduceStatement s.grammar s.statement).done then .ok t'
      else .error (.unparsed .statement, t')) := hends.comesTo
  have hsame := (comesTo_of_run (fun n => outlasts_takeTurns n _) h).unique hturns
  -- the turns have failed, so the reduction of the statement is not done, and `t` is where it ends
  have hdone : (reduceStatement s.grammar s.statement).done = false := by
    by_contra hdone
    rw [if_pos (by simpa using hdone)] at hsame
    cases hsame
  rw [hdone, if_neg Bool.false_ne_true] at hsame
  cases hsame
  have hfinal : (reduceStatement s.grammar s.statement).final = t.statement := by
    have hstack := congrArg List.reverse hends.stack_eq
    simpa [stack, reduceStatement] using hstack.symm
  have hgrammar : (reduceStatement s.grammar s.statement).grammar = t.grammar :=
    hends.grammar_eq.symm
  obtain ⟨hcurrent, hother⟩ := isStuckOn_of_undone hdone
  rw [hfinal, hgrammar] at hcurrent hother
  refine ⟨hcurrent, fun hout => hother fun hnil => hout ?_, rfl, hdone, hfinal, hgrammar⟩
  have hsteps : es.map Reduced.statement = (reduceStatement s.grammar s.statement).steps :=
    hends.steps_eq
  rw [hnil, List.map_eq_nil_iff] at hsteps
  rw [hends.output_eq, hsteps, List.append_nil]

/-- An assignment with a name too many. It takes a turn of each grammar to make a block of the
assignment, and a third turn to see that nothing is left to do. -/
def spareName : Reducer where
  statement := [.ident, .equals, .value, .ident]
  grammar := .statement
  priorities := 7

/-- Where the loops give it up. -/
def spareNameLeft : Reducer where
  statement := [.block, .ident]
  grammar := .statement
  priorities := 7
  level := 6
  output := [⟨.statement, [.assignment, .ident]⟩, ⟨.program, [.block, .ident]⟩]

theorem iterate_isStuckOn_spareName :
    spareName.priorities = spareName.grammar.grammar.levels.length ∧
      (iterate 30 spareName).run = some (.error (.unparsed .statement, spareNameLeft)) ∧
      Grammar.statement.IsStuckOn [.block, .ident] ∧
      Grammar.program.IsStuckOn [.block, .ident] := by
  have hrun : (iterate 30 spareName).run =
      some (.error (.unparsed .statement, spareNameLeft)) := by
    decide +kernel
  obtain ⟨hcurrent, hother, -⟩ := iterate_isStuckOn spareName rfl 30 _ spareNameLeft hrun
  exact ⟨rfl, hrun, hcurrent, hother (by decide)⟩

end Reducer

end BrightLint
