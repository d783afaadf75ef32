import BrightLint.Proofs.Derivation
import BrightLint.Proofs.Places

/-!
Runs of a grammar on stacks whose symbols are known.

A production cannot apply to a stack in which one of its symbols does not occur. Over a small
alphabet this leaves few of the levels of a grammar, and few places of a stack, at which anything
can happen, and a run is then followed step by step.

* `Production.isForeign`: a production needs a symbol outside an alphabet
* `Level.reduce?_of_foreign`, `Level.reduce?_append`: levels and places that are passed over
* `Grammar.Steps`: steps of the reducer
* `reduceStatement_of_steps`: steps that lead to one symbol are the whole reduction of a statement
-/

namespace BrightLint

open Relation

/-! ### Productions that need other symbols -/

/-- Whether a production needs a symbol outside an alphabet. -/
def Production.isForeign (alphabet : List Symbol) (p : Production) : Bool :=
  p.rhs.any (!alphabet.contains ·)

/-- Whether all productions of a level need a symbol outside an alphabet. -/
def Level.isForeign (alphabet : List Symbol) (l : Level) : Bool :=
  l.all fun (_, ps) => ps.all (·.isForeign alphabet)

section Foreign

variable {alphabet stack : List Symbol} {l : Level}

theorem Production.not_infix_of_isForeign {p : Production} (hp : p.isForeign alphabet = true)
    (hs : stack ⊆ alphabet) {above below : List Symbol} :
    stack ≠ above ++ p.rhs.reverse ++ below := by
  rintro rfl
  obtain ⟨x, hx, hout⟩ := List.any_eq_true.1 hp
  have hmem : x ∈ alphabet := hs (by simp [hx])
  simp [hmem] at hout

theorem Level.reduce?_of_foreign (hl : l.isForeign alphabet = true) (hs : stack ⊆ alphabet) :
    l.reduce? stack = none := by
  rw [Option.eq_none_iff_forall_not_mem]
  intro next hnext
  obtain ⟨t, p, hp, above, below, hsplit, -⟩ := exists_of_reduce? hnext
  obtain ⟨ps, hps, hp⟩ := mem_of_filed hp
  have hall := List.all_eq_true.1 hl (t, ps) hps
  exact Production.not_infix_of_isForeign (List.all_eq_true.1 hall p hp) hs hsplit

/-- The upper part of a stack is passed over if the productions filed under its symbols need other
symbols than the stack has. -/
theorem Level.reduce?_append {upper below : List Symbol}
    (hupper : ∀ t ∈ upper, (l.filed t).all (·.isForeign alphabet) = true)
    (hs : upper ++ below ⊆ alphabet) :
    l.reduce? (upper ++ below) = (l.reduce? below).map (upper ++ ·) := by
  induction upper with
  | nil => simp
  | cons t upper ih =>
    have hnone : l.matchAt? (t :: (upper ++ below)) = none := by
      rw [Option.eq_none_iff_forall_not_mem]
      rintro ⟨p, rest⟩ hm
      obtain ⟨hp, hsplit⟩ := eq_append_of_matchTop? hm
      have hforeign := List.all_eq_true.1 (hupper t List.mem_cons_self) p hp
      have hinfix : t :: upper ++ below = [] ++ p.rhs.reverse ++ rest := hsplit
      exact Production.not_infix_of_isForeign hforeign hs hinfix
    rw [List.cons_append, reduce?_cons_of_none hnone,
      ih (fun u hu => hupper u (List.mem_cons_of_mem _ hu))
        fun u hu => hs (List.mem_cons_of_mem _ hu)]
    simp [Function.comp_def]

end Foreign

/-! ### Steps -/

namespace Grammar

/-- A step of the reducer on a stack of several symbols. -/
def Step (g : Grammar) (a b : List Symbol) : Prop := 1 < a.length ∧ g.reduce? a = some b

/-- Any number of steps. -/
abbrev Steps (g : Grammar) : List Symbol → List Symbol → Prop := ReflTransGen g.Step

variable {g : Grammar} {a b : List Symbol}

/-- The step by the first level that does not need symbols outside an alphabet. -/
theorem step_of_foreign {alphabet : List Symbol} {k : Nat} {l : Level}
    (hlevels : (g.levels.take k).all (·.isForeign alphabet) = true) (hs : a ⊆ alphabet)
    (hlen : 1 < a.length) (hl : g.levels[k]? = some l) (h : l.reduce? a = some b) : g.Step a b := by
  refine ⟨hlen, reduce?_of_level hl (fun j hj m hm => ?_) h⟩
  refine Level.reduce?_of_foreign (List.all_eq_true.1 hlevels m ?_) hs
  rw [List.mem_take_iff_getElem]
  obtain ⟨hlt, rfl⟩ := List.getElem?_eq_some_iff.1 hm
  exact ⟨j, by omega, rfl⟩

/-- A run ends where steps lead to one symbol. -/
theorem endOf_run_of_steps (h : g.Steps a b) (hb : b.length = 1) (ha : 1 < a.length) :
    g.run a ≠ [] ∧ endOf a (g.run a) = b := by
  induction h using ReflTransGen.head_induction_on with
  | refl => omega
  | @head a c hac hcb ih =>
    rw [run_of_some hac.2, endOf_cons]
    refine ⟨by simp, ?_⟩
    rcases ReflTransGen.cases_head hcb with rfl | ⟨d, hcd, -⟩
    · rw [if_pos hb]
      rfl
    · have hc := hcd.1
      rw [if_neg (by omega)]
      exact (ih hc).2

end Grammar

/-- **Steps that lead to one symbol are the whole reduction of a statement.** -/
theorem reduceStatement_of_steps {n : GrammarName} {st : List Symbol} {x : Symbol}
    (h : n.grammar.Steps st.reverse [x]) (hlen : 1 < st.length) :
    (reduceStatement n st).done = true ∧ (reduceStatement n st).final = [x] ∧
      (reduceStatement n st).grammar = n := by
  obtain ⟨hne, hend⟩ := Grammar.endOf_run_of_steps h rfl (by simpa using hlen)
  have hsettle := settle_of_one hne (by rw [hend]; rfl)
  rw [hend] at hsettle
  simp [reduceStatement, hsettle]

end BrightLint
