import BrightLint.Proofs.ReducerLoop
import BrightLint.Proofs.ReductionSteps

/-!
Assignments of arithmetic expressions without brackets are accepted, however long. The reducer takes
the last two operands first. Every two operands with an operator between them make a value, which is
an operand again, and the productions for that stand before those for a sign in front of a single
operand; so the expression shrinks from its end until one operand is left, and only then is there
anything to do for the level of the assignments.

* `Arithmetic.expression`: an expression as a list of symbols
* `Arithmetic.steps_assignment`: the steps of the reducer
* `Reducer.iterate_of_oneTurn`: a statement that the first turn reduces to one symbol
* `Reducer.iterate_arithmetic`: the loops on an assignment
-/

namespace BrightLint

open Relation

namespace Arithmetic

/-- What stands between operators. -/
inductive Operand where
  | ident | value | call
deriving DecidableEq, Repr

/-- What stands between two operands. -/
inductive Operator where
  | operator | plus | minus
deriving DecidableEq, Repr

def Operand.symbol : Operand → Symbol
  | ident => .ident
  | value => .value
  | call => .call

def Operator.symbol : Operator → Symbol
  | operator => .operator
  | plus => .plus
  | minus => .minus

/-- The symbols of operators, each with the operand behind it. -/
def operations (rest : List (Operator × Operand)) : List Symbol :=
  rest.flatMap fun (op, o) => [op.symbol, o.symbol]

/-- The symbols of an expression: an operand, and then operators with operands. -/
def expression (first : Operand) (rest : List (Operator × Operand)) : List Symbol :=
  first.symbol :: operations rest

/-- The symbols of the assignment of an expression. -/
def assignment (first : Operand) (rest : List (Operator × Operand)) : List Symbol :=
  .ident :: .equals :: expression first rest

/-! ### The assignment as a stack -/

/-- An assignment, its last symbol first: the last operand, and below it each operator with the
operand before it. -/
def stackOf (last : Operand) (below : List (Operator × Operand)) : List Symbol :=
  last.symbol :: (operations below ++ [.equals, .ident])

theorem exists_stackOf (last : Operand) (below rest : List (Operator × Operand)) :
    ∃ o ops, (operations rest).reverse ++ stackOf last below = stackOf o ops := by
  induction rest generalizing last below with
  | nil => exact ⟨last, below, rfl⟩
  | cons q rest ih =>
    obtain ⟨op, o⟩ := q
    obtain ⟨o', ops, h⟩ := ih o ((op, last) :: below)
    refine ⟨o', ops, ?_⟩
    rw [← h]
    simp [operations, stackOf]

theorem exists_stackOf_assignment (first : Operand) (rest : List (Operator × Operand)) :
    ∃ o ops, (assignment first rest).reverse = stackOf o ops := by
  obtain ⟨o, ops, h⟩ := exists_stackOf first [] rest
  refine ⟨o, ops, ?_⟩
  rw [← h]
  simp [assignment, expression, stackOf, operations]

/-! ### Steps -/

/-- The symbols of arithmetic assignments. -/
def alphabet : List Symbol := [.ident, .value, .call, .operator, .plus, .minus, .equals]

theorem stackOf_subset (last : Operand) (below : List (Operator × Operand)) :
    stackOf last below ⊆ alphabet := by
  have hoperand (o : Operand) : o.symbol ∈ alphabet := by cases o <;> decide
  have hoperator (op : Operator) : op.symbol ∈ alphabet := by cases op <;> decide
  intro x hx
  simp only [stackOf, operations, List.mem_cons, List.mem_append, List.mem_flatMap,
    List.not_mem_nil, or_false] at hx
  rcases hx with rfl | ⟨⟨op, o⟩, -, rfl | rfl⟩ | rfl | rfl
  · exact hoperand last
  · exact hoperator op
  · exact hoperand o
  · decide
  · decide

/-- Two operands with an operator between them make a value, whatever lies below them. -/
theorem matchAt?_operation (o₁ o₂ : Operand) (op : Operator) (below : List Symbol) :
    Grammar.arithmetic.matchAt? (o₂.symbol :: op.symbol :: o₁.symbol :: below) =
      some (⟨[o₁.symbol, op.symbol, o₂.symbol], .value⟩, below) := by
  cases o₁ <;> cases op <;> cases o₂ <;> rfl

theorem step_operation (o₁ o₂ : Operand) (op : Operator) (below : List (Operator × Operand)) :
    Grammar.statement.Step (stackOf o₂ ((op, o₁) :: below)) (stackOf .value below) := by
  refine Grammar.step_of_foreign (k := 2) (l := Grammar.arithmetic) (by decide +kernel)
    (stackOf_subset _ _) (by simp [stackOf]) rfl ?_
  exact Level.reduce?_cons_of_match (matchAt?_operation o₁ o₂ op _)

theorem step_assignment (o : Operand) : Grammar.statement.Step (stackOf o []) [.assignment] := by
  refine ⟨by simp [stackOf], ?_⟩
  cases o <;> decide +kernel

/-- **An assignment is reduced from its end**, operation by operation. -/
theorem steps_assignment (o : Operand) (below : List (Operator × Operand)) :
    Grammar.statement.Steps (stackOf o below) [.assignment] := by
  induction below generalizing o with
  | nil => exact .single (step_assignment o)
  | cons q below ih => exact .head (step_operation q.2 o q.1 below) (ih .value)

end Arithmetic

/-! ### The loops -/

namespace Reducer

/-- The state in which the first turn starts. -/
def afresh (s : Reducer) : Reducer :=
  { s with byProgram := false, byStatement := false, isValid := false, level := 0 }

/-- **Where one turn is enough.** If the run of the current grammar ends in one symbol, the loops
return after the first turn, with the grammar that they started with. -/
theorem iterate_of_oneTurn {s : Reducer} (hf : s.Fits)
    (hne : s.grammar.grammar.run s.stack ≠ [])
    (hone : (endOf s.stack (s.grammar.grammar.run s.stack)).length = 1) :
    ∃ t, ComesTo (climb · s.afresh) (.ok t) ∧ ComesTo (iterate · s) (.ok t) ∧
      t.stack = endOf s.stack (s.grammar.grammar.run s.stack) ∧ t.grammar = s.grammar ∧
      t.output = s.output ++ recorded s.grammar (s.grammar.grammar.run s.stack) := by
  obtain ⟨-, -, -, hrun⟩ | ⟨t, k, ht, hrun, rfl | hp⟩ :=
    climb_spec s.afresh hf rfl (Nat.zero_le _) (stuckBelow_zero _) (fun _ => rfl)
  · exact absurd hrun hne
  · exact absurd (hrun rfl) hne
  · have htv : t.isValid = true := by
      by_contra hv
      have htf : t.isValid = false := by simpa using hv
      obtain ⟨-, hstack⟩ := hp.prospect_run rfl (prospect_of_stuck htf (hrun htf))
      have hleft : t.statement.length = 1 := by
        rw [← List.length_reverse]
        exact (congrArg List.length hstack).trans hone
      exact hv (hp.valid_iff.2 hleft)
    obtain ⟨hout, hstack⟩ := hp.prospect_run rfl (show t.prospect = (t.output, t.stack) by
      simp [prospect, htv])
    refine ⟨t.atLevel k, ht, ?_, hstack, hp.grammar_eq, hout⟩
    refine ht.of_bind ?_ (takeTurns_succ rfl)
    simp only [atLevel_isValid, htv, Bool.not_true, Bool.false_and]
    exact comesTo_takeTurns_of_valid htv

/-- The loops are laid a statement, to be started in the statement grammar. -/
def onStatement (st : List Symbol) (s : Reducer) : Reducer :=
  { s with
    statement := st
    grammar := .statement
    priorities := Grammar.statement.levels.length }

/-- **Arithmetic assignments are accepted.** The assignment of an expression of any length is
reduced to one symbol, in the statement grammar. The loops, started in that grammar, return with
this symbol as well. Their first turn is enough: the grammar is not switched, and all reductions are
those of the statement grammar. -/
theorem iterate_arithmetic (s : Reducer) (first : Arithmetic.Operand)
    (rest : List (Arithmetic.Operator × Arithmetic.Operand)) :
    (reduceStatement .statement (Arithmetic.assignment first rest)).done = true ∧
    (reduceStatement .statement (Arithmetic.assignment first rest)).final = [.assignment] ∧
    (reduceStatement .statement (Arithmetic.assignment first rest)).grammar = .statement ∧
    ∃ t es, ComesTo (iterate · (s.onStatement (Arithmetic.assignment first rest))) (.ok t) ∧
      ComesTo (climb · (s.onStatement (Arithmetic.assignment first rest)).afresh) (.ok t) ∧
      t.statement = [.assignment] ∧ t.grammar = .statement ∧ t.output = s.output ++ es ∧
      ∀ e ∈ es, e.grammar = .statement := by
  obtain ⟨o, ops, hstack⟩ := Arithmetic.exists_stackOf_assignment first rest
  have hsteps := Arithmetic.steps_assignment o ops
  have hlong : 1 < (Arithmetic.stackOf o ops).length := by simp [Arithmetic.stackOf]
  rw [← hstack] at hsteps hlong
  obtain ⟨hdone, hfinal, hkept⟩ :=
    reduceStatement_of_steps (n := .statement) hsteps (by rwa [List.length_reverse] at hlong)
  refine ⟨hdone, hfinal, hkept, ?_⟩
  obtain ⟨hne, hend⟩ := Grammar.endOf_run_of_steps hsteps rfl hlong
  obtain ⟨t, hturn, hloop, hleft, hgrammar, hout⟩ :=
    iterate_of_oneTurn (s := s.onStatement (Arithmetic.assignment first rest)) rfl hne
      ((congrArg List.length hend).trans rfl)
  refine ⟨t, _, hloop, hturn, ?_, hgrammar, hout, ?_⟩
  · simpa [stack] using congrArg List.reverse (hleft.trans hend)
  · intro e he
    obtain ⟨st, -, rfl⟩ := List.mem_map.1 he
    rfl

end Reducer

end BrightLint
