import BrightLint.Grammar.Reduction
import Mathlib.Data.List.Chain
import Mathlib.Logic.Relation

/-!
Derivations in the two grammars. A symbol derives a list when the list can be reduced to the symbol,
one occurrence of a right-hand side after the other, by productions of either grammar.

* `Grammar.Reduces`: one reduction by a production of one grammar, anywhere in a list
* `ReducesTo`: any number of reductions, by productions of both grammars
* `Derives`: reduction to a single symbol
* `reducesTo_reduceStatement`, `reducesTo_reduceProgram`: the reducer only makes reductions of this
  kind, so what it ends with derives what it started from
-/

namespace BrightLint

open Relation

/-! ### Reductions as a relation -/

/-- The productions of a grammar, level by level. -/
def Grammar.productions (g : Grammar) : List Production := g.levels.flatMap (·.flatMap Prod.snd)

/-- One occurrence of the right-hand side of a production of `g` in `a` has become its result. -/
def Grammar.Reduces (g : Grammar) (a b : List Symbol) : Prop :=
  ∃ p ∈ g.productions, ∃ u v, a = u ++ p.rhs ++ v ∧ b = u ++ p.result :: v

/-- One reduction in either grammar. -/
def Reduces (a b : List Symbol) : Prop := ∃ n : GrammarName, n.grammar.Reduces a b

/-- Any number of reductions in the union of the two grammars. -/
abbrev ReducesTo : List Symbol → List Symbol → Prop := ReflTransGen Reduces

/-- The symbol `x` derives the list `st` in the union of the two grammars. -/
def Derives (x : Symbol) (st : List Symbol) : Prop := ReducesTo st [x]

theorem Grammar.mem_productions {g : Grammar} {p : Production} :
    p ∈ g.productions ↔ ∃ l ∈ g.levels, ∃ t ps, (t, ps) ∈ l ∧ p ∈ ps := by
  simp only [productions, List.mem_flatMap, Prod.exists]

theorem Grammar.mem_productions_of_filed {g : Grammar} {l : Level} {t : Symbol} {p : Production}
    (hl : l ∈ g.levels) (hp : p ∈ l.filed t) : p ∈ g.productions := by
  obtain ⟨ps, hps, hp⟩ := Level.mem_of_filed hp
  exact mem_productions.2 ⟨l, hl, t, ps, hps, hp⟩

/-! ### Reductions inside a longer list -/

theorem Grammar.Reduces.append {g : Grammar} {a b : List Symbol} (h : g.Reduces a b)
    (l r : List Symbol) : g.Reduces (l ++ a ++ r) (l ++ b ++ r) := by
  obtain ⟨p, hp, u, v, rfl, rfl⟩ := h
  exact ⟨p, hp, l ++ u, v ++ r, by simp, by simp⟩

theorem ReducesTo.append_both {a b : List Symbol} (h : ReducesTo a b) (l r : List Symbol) :
    ReducesTo (l ++ a ++ r) (l ++ b ++ r) := by
  induction h with
  | refl => exact .refl
  | tail _ hstep ih =>
    obtain ⟨n, hn⟩ := hstep
    exact ih.tail ⟨n, hn.append l r⟩

theorem ReducesTo.append {a a' b b' : List Symbol} (ha : ReducesTo a a') (hb : ReducesTo b b') :
    ReducesTo (a ++ b) (a' ++ b') := by
  have h₁ : ReducesTo (a ++ b) (a' ++ b) := by simpa using ha.append_both [] b
  have h₂ : ReducesTo (a' ++ b) (a' ++ b') := by simpa using hb.append_both a' []
  exact h₁.trans h₂

/-! ### The reducer makes reductions -/

theorem Level.exists_of_reduce? {l : Level} {stack next : List Symbol}
    (h : l.reduce? stack = some next) :
    ∃ t, ∃ p ∈ l.filed t, ∃ above below,
      stack = above ++ p.rhs.reverse ++ below ∧ next = above ++ p.result :: below := by
  induction stack generalizing next with
  | nil => cases h
  | cons t rest ih =>
    rw [reduce?] at h
    split at h
    · next p below hm =>
      cases h
      obtain ⟨hp, he⟩ := eq_append_of_matchTop? hm
      exact ⟨t, p, hp, [], below, by simpa using he, rfl⟩
    · -- nothing applies on top, so the reduction is one of the rest
      obtain ⟨u, hu, rfl⟩ := Option.map_eq_some_iff.1 h
      obtain ⟨t', p, hp, above, below, rfl, rfl⟩ := ih hu
      exact ⟨t', p, hp, t :: above, below, rfl, rfl⟩

/-- **A step of the reducer is a reduction.** -/
theorem Grammar.reduces_of_reduce? {g : Grammar} {stack next : List Symbol}
    (h : g.reduce? stack = some next) : g.Reduces stack.reverse next.reverse := by
  obtain ⟨l, hl, hr⟩ := List.exists_of_findSome?_eq_some h
  obtain ⟨t, p, hp, above, below, rfl, rfl⟩ := Level.exists_of_reduce? hr
  exact ⟨p, mem_productions_of_filed hl hp, below.reverse, above.reverse, by simp, by simp⟩

theorem Grammar.run_eq_nil_iff {g : Grammar} {stack : List Symbol} :
    g.run stack = [] ↔ g.reduce? stack = none := by
  cases h : g.reduce? stack with
  | none => simp [run_of_none h]
  | some next => simp [run_of_some h]

/-- The lists on the way of a run, in reading order, are reductions one of the other. -/
theorem Grammar.isChain_run (g : Grammar) (stack : List Symbol) :
    List.IsChain g.Reduces (stack.reverse :: (g.run stack).map List.reverse) := by
  cases hn : g.reduce? stack with
  | none => simp [run_of_none hn]
  | some next =>
    have hlt := weightOf_reduce?_lt hn
    rw [run_of_some hn, List.map_cons, List.isChain_cons_cons]
    refine ⟨reduces_of_reduce? hn, ?_⟩
    split
    · simp
    · exact isChain_run g next
termination_by weightOf stack

theorem reflTransGen_endOf {r : List Symbol → List Symbol → Prop} {st : List Symbol}
    {steps : List (List Symbol)} (h : List.IsChain r (st :: steps)) :
    ReflTransGen r st (endOf st steps) := by
  induction steps generalizing st with
  | nil => exact .refl
  | cons next steps ih =>
    rw [List.isChain_cons_cons] at h
    rw [endOf_cons]
    exact .head h.1 (ih h.2)

theorem endOf_append (st : List Symbol) (a b : List (List Symbol)) :
    endOf st (a ++ b) = endOf (endOf st a) b := by
  cases h : b.getLast? <;> simp [endOf, List.getLast?_append, h]

theorem endOf_map_reverse (stack : List Symbol) (steps : List (List Symbol)) :
    endOf stack.reverse (steps.map List.reverse) = (endOf stack steps).reverse := by
  cases h : steps.getLast? <;> simp [endOf, List.getLast?_map, h]

/-- A run of one grammar is made of reductions of that grammar. -/
theorem Grammar.reflTransGen_run (g : Grammar) (stack : List Symbol) :
    ReflTransGen g.Reduces stack.reverse (endOf stack (g.run stack)).reverse := by
  rw [← endOf_map_reverse]
  exact reflTransGen_endOf (g.isChain_run stack)

/-! ### The three ways in which the turn of a grammar ends -/

section Turn

variable {n : GrammarName} {stack : List Symbol}

theorem settle_of_idle (hs : n.grammar.run stack = []) :
    settle n stack = ⟨[], stack, n, false⟩ := by
  rw [settle]
  simp [hs]

theorem settle_of_one (hs : n.grammar.run stack ≠ [])
    (hone : (endOf stack (n.grammar.run stack)).length = 1) :
    settle n stack = ⟨n.grammar.run stack, endOf stack (n.grammar.run stack), n, true⟩ := by
  rw [settle]
  simp [hs, hone]

theorem settle_of_stuck (hs : n.grammar.run stack ≠ [])
    (hone : (endOf stack (n.grammar.run stack)).length ≠ 1) :
    settle n stack =
      { settle n.other (endOf stack (n.grammar.run stack)) with
        steps := n.grammar.run stack ++
          (settle n.other (endOf stack (n.grammar.run stack))).steps } := by
  rw [settle]
  simp [hs, hone]

end Turn

theorem reducesTo_settle (n : GrammarName) (stack : List Symbol) :
    ReducesTo stack.reverse (settle n stack).final.reverse := by
  have hrun : ReducesTo stack.reverse (endOf stack (n.grammar.run stack)).reverse :=
    ReflTransGen.mono (fun _ _ h => ⟨n, h⟩) _ _ (n.grammar.reflTransGen_run stack)
  by_cases hs : n.grammar.run stack = []
  · rw [settle_of_idle hs]
  · by_cases hone : (endOf stack (n.grammar.run stack)).length = 1
    · rwa [settle_of_one hs hone]
    · have hlt := n.grammar.weightOf_endOf_run_lt stack hs
      rw [settle_of_stuck hs hone]
      exact hrun.trans (reducesTo_settle n.other _)
termination_by weightOf stack

/-- **A statement is reduced by productions only**, whatever the grammar it is started with. -/
theorem reducesTo_reduceStatement (n : GrammarName) (st : List Symbol) :
    ReducesTo st (reduceStatement n st).final := by
  simpa [reduceStatement] using reducesTo_settle n st.reverse

/-- **A program is reduced by productions of the program grammar only.** -/
theorem reducesTo_reduceProgram (st : List Symbol) :
    ReflTransGen Grammar.program.Reduces st (reduceProgram st).final := by
  have h := Grammar.program.reflTransGen_run st.reverse
  rw [← endOf_map_reverse] at h
  simpa [reduceProgram] using h

/-! ### What a reduction ends with -/

/-- The symbols that a production of either grammar gives. -/
def IsResult (x : Symbol) : Prop := ∃ n : GrammarName, ∃ p ∈ n.grammar.productions, p.result = x

theorem Reduces.isResult {a : List Symbol} {x : Symbol} (h : Reduces a [x]) : IsResult x := by
  obtain ⟨n, p, hp, u, v, -, he⟩ := h
  refine ⟨n, p, hp, ?_⟩
  cases u with
  | nil => exact (List.cons.inj he).1.symm
  | cons y u => simp at he

theorem Grammar.exists_reduces_endOf_run {g : Grammar} {stack : List Symbol}
    (h : g.run stack ≠ []) : ∃ a, g.Reduces a (endOf stack (g.run stack)).reverse := by
  cases hn : g.reduce? stack with
  | none => exact absurd (run_of_none hn) h
  | some next =>
    have hlt := weightOf_reduce?_lt hn
    have hred := reduces_of_reduce? hn
    rw [run_of_some hn, endOf_cons]
    split
    · exact ⟨_, hred⟩
    · by_cases hr : g.run next = []
      · rw [hr]
        exact ⟨_, hred⟩
      · exact exists_reduces_endOf_run hr
termination_by weightOf stack

theorem settle_of_done {n : GrammarName} {stack : List Symbol} (h : (settle n stack).done = true) :
    (settle n stack).steps ≠ [] ∧ (settle n stack).final.length = 1 ∧
      ∃ a, Reduces a (settle n stack).final.reverse := by
  by_cases hs : n.grammar.run stack = []
  · rw [settle_of_idle hs] at h
    cases h
  · by_cases hone : (endOf stack (n.grammar.run stack)).length = 1
    · obtain ⟨a, ha⟩ := Grammar.exists_reduces_endOf_run hs
      rw [settle_of_one hs hone]
      exact ⟨hs, hone, a, n, ha⟩
    · have hlt := n.grammar.weightOf_endOf_run_lt stack hs
      rw [settle_of_stuck hs hone] at h ⊢
      exact ⟨by simp [hs], (settle_of_done h).2⟩
termination_by weightOf stack

/-- What is left is the last list on the way. -/
theorem final_settle (n : GrammarName) (stack : List Symbol) :
    (settle n stack).final = endOf stack (settle n stack).steps := by
  by_cases hs : n.grammar.run stack = []
  · rw [settle_of_idle hs]
    rfl
  · by_cases hone : (endOf stack (n.grammar.run stack)).length = 1
    · rw [settle_of_one hs hone]
    · have hlt := n.grammar.weightOf_endOf_run_lt stack hs
      rw [settle_of_stuck hs hone, endOf_append]
      exact final_settle n.other _
termination_by weightOf stack

theorem final_reduceStatement (n : GrammarName) (st : List Symbol) :
    (reduceStatement n st).final = endOf st (reduceStatement n st).steps := by
  have h := congrArg List.reverse (final_settle n st.reverse)
  rw [← endOf_map_reverse, List.reverse_reverse] at h
  exact h

/-- A statement that was reduced to the end is a single symbol, given by a production. -/
theorem reduceStatement_of_done {n : GrammarName} {st : List Symbol}
    (h : (reduceStatement n st).done = true) :
    (reduceStatement n st).steps ≠ [] ∧ ∃ x, (reduceStatement n st).final = [x] ∧ IsResult x := by
  have hdone : (settle n st.reverse).done = true := h
  obtain ⟨hs, hone, a, ha⟩ := settle_of_done hdone
  have hfinal : (reduceStatement n st).final = (settle n st.reverse).final.reverse := rfl
  obtain ⟨x, hx⟩ := List.length_eq_one_iff.1 (hone ▸ List.length_reverse :
    (settle n st.reverse).final.reverse.length = 1)
  rw [hx] at ha
  exact ⟨by simpa [reduceStatement] using hs, x, hfinal.trans hx, ha.isResult⟩

end BrightLint
