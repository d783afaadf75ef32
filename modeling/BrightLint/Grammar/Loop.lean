import BrightLint.Grammar.Lookup
import BrightLint.Grammar.Reduction

/-!
The reducer as loops over the levels of a grammar and the places of a statement. Where
`reduceStatement` says which reduction comes next, the loops look for it: a place is tried by a
look-up that can fail, a reduction sends the loops back to the first level, and the grammars take
turns as long as one of them gets on.

* `Reducer`: what the loops share
* `Reducer.sweepFrom`: tries one place after the other, from the end of the statement
* `Reducer.climb`: sweeps with one level after the other
* `Reducer.takeTurns`: lets the grammars take turns
* `Reducer.iterate`: the whole reduction
* `Reducer.joinFrom`, `Reducer.conclude`: the same for a program, with its own grammar only

Nothing is said here about the loops coming to an end: a loop is given a number of rounds, and one
that has not ended by then has the value `none`. The depth of the recursion is left out as well: each
reduction opens one more call of the loops, and no bound is set to how many are open at a time.
-/

namespace BrightLint

/-- A list that a reduction gave, with the grammar in use at that moment. -/
structure Reduced where
  grammar : GrammarName
  statement : List Symbol
deriving DecidableEq, Repr

/-- The state of the loops. -/
structure Reducer where
  statement : List Symbol
  grammar : GrammarName
  /-- How many levels are to be tried. -/
  priorities : Nat
  level : Nat := 0
  /-- Whether the latest reduction left one symbol. -/
  isValid : Bool := false
  /-- Whether a production of the program grammar was applied in the current turn. -/
  byProgram : Bool := false
  /-- Whether a production of the statement grammar was applied in the current turn. -/
  byStatement : Bool := false
  /-- Every list on the way. -/
  output : List Reduced := []
deriving DecidableEq, Repr

namespace Reducer

/-- What a loop comes to: the state after it, or a fault with the state that it left. -/
abbrev Loop := ExceptT (Fault × Reducer) Option Reducer

/-- A loop that has no rounds left. -/
def unfinished : Loop := ExceptT.mk none

/-- The production that the current level has for the place before the last `i` symbols, and the
statement after it. -/
def find (i : Nat) (s : Reducer) : Except Fault (Option (Production × List Symbol)) :=
  (s.grammar.grammar.lookup s.level s.statement i).map Lookup.found

/-- Goes on with a reduced statement, from the first level. -/
def replace (st : List Symbol) (s : Reducer) : Reducer :=
  { s with
    statement := st
    level := 0
    byStatement := s.grammar == .statement
    byProgram := s.grammar != .statement
    output := s.output ++ [⟨s.grammar, st⟩] }

/-- Goes over to a level. -/
def atLevel (k : Nat) (s : Reducer) : Reducer := { s with level := k }

/-- Whether the current turn had no reduction so far. -/
def isIdle (s : Reducer) : Bool := !s.byProgram && !s.byStatement

section AtLevel

variable (k : Nat) (s : Reducer)

@[simp]
theorem atLevel_statement : (s.atLevel k).statement = s.statement := rfl

@[simp]
theorem atLevel_grammar : (s.atLevel k).grammar = s.grammar := rfl

@[simp]
theorem atLevel_priorities : (s.atLevel k).priorities = s.priorities := rfl

@[simp]
theorem atLevel_level : (s.atLevel k).level = k := rfl

@[simp]
theorem atLevel_isValid : (s.atLevel k).isValid = s.isValid := rfl

@[simp]
theorem atLevel_isIdle : (s.atLevel k).isIdle = s.isIdle := rfl

@[simp]
theorem atLevel_output : (s.atLevel k).output = s.output := rfl

end AtLevel

/-- Tries the places before the last `i` symbols, `i + 1` symbols, and so on. After a reduction that
leaves more than one symbol the statement is swept from its end, and only then are the other places
tried. Nothing found with the last level is the end, unless there was a reduction before. -/
def sweepFrom : Nat → Nat → Reducer → Loop
  | 0, _, _ => unfinished
  | n + 1, i, s =>
    if i < s.statement.length then
      match s.find i with
      | .error f => throw (f, s)
      | .ok none => sweepFrom n (i + 1) s
      | .ok (some (_, st)) =>
        if st.length = 1 then sweepFrom n (i + 1) { s.replace st with isValid := true }
        else do
          let s ← sweepFrom n 0 { s.replace st with isValid := false }
          sweepFrom n (i + 1) s
    else if !s.isValid && s.level + 1 == s.priorities && s.isIdle then
      throw (.unparsed .statement, s)
    else pure s

/-- Tries every place with the current level. -/
def sweep (n : Nat) (s : Reducer) : Loop := sweepFrom n 0 { s with isValid := false }

/-- Sweeps with the current level and those after it, until one symbol is left. -/
def climb : Nat → Reducer → Loop
  | 0, _ => unfinished
  | n + 1, s =>
    if s.level < s.priorities then do
      let s ← s.sweep n
      if s.statement.length = 1 then pure (s.atLevel (s.level + 1))
      else climb n (s.atLevel (s.level + 1))
    else pure s

/-- Goes over to the other grammar. -/
def switch (s : Reducer) : Reducer :=
  { s with
    grammar := s.grammar.other
    priorities := s.grammar.other.grammar.levels.length
    byStatement := if s.grammar = .statement then false else s.byStatement
    byProgram := if s.grammar = .statement then s.byProgram else false }

/-- Lets the grammars take turns, as long as one gets on, until one symbol is left. -/
def takeTurns : Nat → Reducer → Loop
  | 0, _ => unfinished
  | n + 1, s =>
    if s.isValid then pure s
    else do
      let s ← climb n (s.atLevel 0)
      if !s.isValid && !s.isIdle then takeTurns n s.switch
      else if !s.isValid then throw (.unparsed .statement, s)
      else takeTurns n s

/-- Reduces the statement, starting with the current grammar. -/
def iterate (n : Nat) (s : Reducer) : Loop :=
  takeTurns n { s with byProgram := false, byStatement := false, isValid := false }

/-! ### Programs -/

/-- Goes on with a reduced program, from the first level. -/
def join (st : List Symbol) (s : Reducer) : Reducer :=
  { s with statement := st, level := 0, output := s.output ++ [⟨s.grammar, st⟩] }

/-- Tries the places of a program before the last `i` symbols, `i + 1` symbols, and so on. After a
reduction that leaves more than one symbol the program is tried from its end, and only then are the
other places. A program with a reduction counts as valid from then on, whatever is left of it. -/
def joinFrom : Nat → Nat → Reducer → Loop
  | 0, _, _ => unfinished
  | n + 1, i, s =>
    if i < s.statement.length then
      match s.find i with
      | .error f => throw (f, s)
      | .ok none => joinFrom n (i + 1) s
      | .ok (some (_, st)) =>
        if st.length = 1 then joinFrom n (i + 1) { s.join st with isValid := true }
        else do
          let s ← joinFrom n 0 { s.join st with isValid := false }
          joinFrom n (i + 1) { s with isValid := true }
    else if !s.isValid && s.level + 1 == s.priorities then throw (.unparsed .statement, s)
    else pure s

/-- Code that cannot be reduced in the course of a program is a program that cannot be. -/
def asProgram : Fault → Fault
  | .unparsed _ => .unparsed .program
  | f => f

/-- Reduces a program by its own grammar. A single block is a program as it stands. -/
def conclude (n : Nat) (s : Reducer) : Loop :=
  if s.statement = [.block] then pure s
  else
    let s := { s with
      grammar := .program
      priorities := Grammar.program.levels.length
      level := 0
      isValid := false }
    (joinFrom n 0 s).adapt fun (f, t) => (asProgram f, t)

end Reducer

end BrightLint
