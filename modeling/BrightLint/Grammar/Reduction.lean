import BrightLint.Grammar.Statement
import BrightLint.Grammar.Program

/-!
Reducing a list of symbols to one symbol.

* `Grammar.run`: reduces by one grammar until one symbol is left or nothing applies
* `settle`: goes over to the other grammar whenever the current one got on but is stuck
* `reduceStatement`, `reduceProgram`: the same in reading order, with every list on the way
-/

namespace BrightLint

/-- The two grammars by name. -/
inductive GrammarName where
  | statement
  | program
deriving DecidableEq, Repr

namespace GrammarName

def grammar : GrammarName → Grammar
  | statement => Grammar.statement
  | program => Grammar.program

/-- The grammar to go over to. -/
def other : GrammarName → GrammarName
  | statement => program
  | program => statement

def label : GrammarName → String
  | statement => "STATEMENT_GRAMMAR"
  | program => "PROGRAM_GRAMMAR"

end GrammarName

/-! ### One grammar -/

/-- The reductions of a stack, in order: until one symbol is left or no production applies. -/
def Grammar.run (g : Grammar) (stack : List Symbol) : List (List Symbol) :=
  match _hs : g.reduce? stack with
  | none => []
  | some next => next :: if next.length = 1 then [] else g.run next
termination_by weightOf stack
decreasing_by exact Grammar.weightOf_reduce?_lt _hs

/-- Where a run ends. -/
def endOf (stack : List Symbol) (steps : List (List Symbol)) : List Symbol :=
  steps.getLast?.getD stack

theorem Grammar.run_of_none {g : Grammar} {stack : List Symbol} (h : g.reduce? stack = none) :
    g.run stack = [] := by
  rw [Grammar.run]
  split <;> simp_all

theorem Grammar.run_of_some {g : Grammar} {stack next : List Symbol}
    (h : g.reduce? stack = some next) :
    g.run stack = next :: if next.length = 1 then [] else g.run next := by
  rw [Grammar.run]
  split <;> simp_all

theorem endOf_cons (stack next : List Symbol) (steps : List (List Symbol)) :
    endOf stack (next :: steps) = endOf next steps := by
  simp [endOf, List.getLast?_cons]

theorem Grammar.weightOf_endOf_run_lt (g : Grammar) (stack : List Symbol)
    (h : g.run stack ≠ []) : weightOf (endOf stack (g.run stack)) < weightOf stack := by
  cases hn : g.reduce? stack with
  | none => exact absurd (Grammar.run_of_none hn) h
  | some next =>
    have hlt := Grammar.weightOf_reduce?_lt hn
    rw [Grammar.run_of_some hn, endOf_cons]
    split
    · simpa [endOf] using hlt
    · by_cases hr : g.run next = []
      · simpa [endOf, hr] using hlt
      · have ih := Grammar.weightOf_endOf_run_lt g next hr
        omega
termination_by weightOf stack

/-! ### Both grammars -/

/-- How a reduction ended: every list on the way, the last of them, the grammar in use at the
end, and whether one symbol was reached. -/
structure Settled where
  steps : List (List Symbol)
  final : List Symbol
  grammar : GrammarName
  done : Bool
deriving DecidableEq, Repr

/-- Reduces a stack to one symbol, going over to the other grammar whenever the current one got
on but is stuck. A grammar that applies nowhere is the end. -/
def settle (n : GrammarName) (stack : List Symbol) : Settled :=
  let steps := n.grammar.run stack
  if _hs : steps = [] then ⟨[], stack, n, false⟩
  else
    let final := endOf stack steps
    if final.length = 1 then ⟨steps, final, n, true⟩
    else
      let s := settle n.other final
      { s with steps := steps ++ s.steps }
termination_by weightOf stack
decreasing_by exact Grammar.weightOf_endOf_run_lt _ _ _hs

/-! ### In reading order -/

/-- Reduces a statement to one symbol, starting with the given grammar. -/
def reduceStatement (n : GrammarName) (st : List Symbol) : Settled :=
  let s := settle n st.reverse
  { s with steps := s.steps.map List.reverse, final := s.final.reverse }

/-- Reduces a program by its own grammar. -/
def reduceProgram (st : List Symbol) : Settled :=
  let steps := (Grammar.program.run st.reverse).map List.reverse
  let final := endOf st steps
  ⟨steps, final, .program, !steps.isEmpty && final.length == 1⟩

end BrightLint
