import BrightLint.Parsing.Run
import BrightLint.Proofs.ReductionSteps

/-!
Structured programs are accepted. A program whose loops, functions and conditions are nested as they
should be is reduced to a single block, whatever its size and the depth of the nesting.

The reducer always takes the reduction nearest to the end, and a head with a block behind it may
become part of a condition too early. What keeps it from going astray is that everything to the
right of the statement at hand has been reduced as far as it can be: such a part of the stack is
*quiet* over the symbol that the statement ends with. Only two things can then happen: the statement
at hand gets shorter, or a bracket of words closes around a block.

* `Structured`: statements, blocks and chains of conditions, as lists of symbols
* `Quiet`: no production applies in the upper part of a stack
* `Resting`, `Clear`: the parts of a stack under which a statement, or a block, can be reduced
* `reducible_structured`: a statement or a block is reduced to one block, in place
* `checkProgram_structured`: the whole program is
-/

namespace BrightLint

open Relation

/-! ### Structured programs -/

/-- The statements of one symbol. -/
def plainStatements : List Symbol :=
  [.assignment, .call, .printing, .returning, .exiting, .block]

/-- The heads of structures with the symbols that close them. -/
def enclosures : List (Symbol × Symbol) :=
  [(.whileHead, .endWhile), (.forHead, .endFor), (.forEachHead, .endFor),
   (.functionHead, .endFunction), (.ifHead, .endIf)]

/-- What structured programs are made of. -/
inductive Construct where
  | statement
  /-- One statement or more. -/
  | block
  /-- A block, or nothing. -/
  | body
  /-- The further conditions of a conditional statement, each with its block. -/
  | chain
deriving DecidableEq, Repr

/-- The lists of symbols that structured programs are made of. -/
inductive Structured : Construct → List Symbol → Prop
  | plain {x : Symbol} : x ∈ plainStatements → Structured .statement [x]
  | enclosed {a z : Symbol} {w : List Symbol} : (a, z) ∈ enclosures → Structured .body w →
      Structured .statement (a :: w ++ [z])
  | ifElse {v w : List Symbol} : Structured .body v → Structured .block w →
      Structured .statement (.ifHead :: v ++ .elseHead :: w ++ [.endIf])
  | ifChain {v w : List Symbol} : Structured .block v → Structured .chain w →
      Structured .statement (.ifHead :: v ++ w ++ [.endIf])
  | ifChainElse {v w u : List Symbol} : Structured .block v → Structured .chain w →
      Structured .block u → Structured .statement (.ifHead :: v ++ w ++ .elseHead :: u ++ [.endIf])
  | one {w : List Symbol} : Structured .statement w → Structured .block w
  | more {v w : List Symbol} : Structured .statement v → Structured .block w →
      Structured .block (v ++ w)
  | empty : Structured .body []
  | full {w : List Symbol} : Structured .block w → Structured .body w
  | chainEnd {w : List Symbol} : Structured .block w → Structured .chain (.elseIfHead :: w)
  | chainMore {v w : List Symbol} : Structured .block v → Structured .chain w →
      Structured .chain (.elseIfHead :: v ++ w)

/-! ### The quiet part of a stack -/

/-- No production applies at a place of `k` when `k` lies on top of `below`. -/
def Quiet (k below : List Symbol) : Prop :=
  ∀ j < k.length, Grammar.blocks.matchAt? ((k ++ below).drop j) = none

theorem quiet_nil (below : List Symbol) : Quiet [] below := fun _ hj => absurd hj (by simp)

theorem quiet_append {k m below : List Symbol} :
    Quiet (k ++ m) below ↔ Quiet k (m ++ below) ∧ Quiet m below := by
  constructor
  · intro h
    refine ⟨fun j hj => ?_, fun j hj => ?_⟩
    · rw [← List.append_assoc]
      exact h j (by simp; omega)
    · have := h (k.length + j) (by simpa using hj)
      rwa [List.append_assoc, List.drop_append, List.drop_eq_nil_of_le (by omega), List.nil_append,
        Nat.add_sub_cancel_left] at this
  · rintro ⟨hk, hm⟩ j hj
    by_cases hjk : j < k.length
    · rw [List.append_assoc]
      exact hk j hjk
    · have := hm (j - k.length) (by simp at hj; omega)
      rwa [List.append_assoc, List.drop_append, List.drop_eq_nil_of_le (by omega), List.nil_append]

theorem quiet_singleton {c : Symbol} {below : List Symbol} :
    Quiet [c] below ↔ Grammar.blocks.matchAt? (c :: below) = none := by
  simp [Quiet]

/-! ### Steps -/

/-- A step of the reducer on a stack of several symbols. -/
def ProgramStep (a b : List Symbol) : Prop := 1 < a.length ∧ Grammar.program.reduce? a = some b

theorem reduce?_program (stack : List Symbol) :
    Grammar.program.reduce? stack = Grammar.blocks.reduce? stack := by
  simp [Grammar.reduce?, Grammar.program]

/-- **Under a quiet part of the stack**, the reducer makes the step that is due below it. -/
theorem step_of_quiet {k below r : List Symbol} {t : Symbol} {p : Production}
    (hk : Quiet k (t :: below)) (hlen : 1 < (k ++ t :: below).length)
    (hm : Grammar.blocks.matchAt? (t :: below) = some (p, r)) :
    ProgramStep (k ++ t :: below) (k ++ p.result :: r) := by
  refine ⟨hlen, ?_⟩
  rw [reduce?_program]
  have hd : (k ++ t :: below).drop k.length = t :: below := by simp
  rw [Level.reduce?_of_match hk (by rw [hd]; exact hm)]
  simp

/-! ### What lies to the right of a statement -/

/-- The symbols that close a structure. -/
def closers : List Symbol := [.endWhile, .endFor, .endFunction, .endIf]

/-- The symbols that a statement can end with, unless it is a block already. -/
def statementEnds : List Symbol :=
  [.assignment, .call, .printing, .returning, .exiting] ++ closers

/-- A statement can be reduced under `k`. -/
def Resting (k : List Symbol) : Prop := ∀ x ∈ statementEnds, ∀ below, Quiet k (x :: below)

/-- A block can be reduced under `k`: its statements from the last to the first, each of them joined
to the block that the ones behind it have become. -/
structure Clear (k : List Symbol) : Prop where
  resting : Resting k
  resting_block : Resting (k ++ [.block])
  quiet_blocks : ∀ below, Quiet k (.block :: .block :: below)

theorem mem_statementEnds_of_closers {z : Symbol} (hz : z ∈ closers) : z ∈ statementEnds :=
  List.mem_append_right _ hz

theorem mem_closers {z : Symbol} : z ∈ closers ↔
    z = .endWhile ∨ z = .endFor ∨ z = .endFunction ∨ z = .endIf := by
  simp [closers]

theorem mem_statementEnds {x : Symbol} : x ∈ statementEnds ↔
    x = .assignment ∨ x = .call ∨ x = .printing ∨ x = .returning ∨ x = .exiting ∨
      x = .endWhile ∨ x = .endFor ∨ x = .endFunction ∨ x = .endIf := by
  simp [statementEnds, closers]

theorem matchAt?_block {x : Symbol} (hx : x ∈ statementEnds) (below : List Symbol) :
    Grammar.blocks.matchAt? (.block :: x :: below) = none := by
  rcases mem_statementEnds.1 hx with rfl | rfl | rfl | rfl | rfl | rfl | rfl | rfl | rfl <;> rfl

theorem matchAt?_closer {z x : Symbol} (hz : z ∈ closers) (hx : x ∈ statementEnds)
    (below : List Symbol) : Grammar.blocks.matchAt? (z :: x :: below) = none := by
  rcases mem_closers.1 hz with rfl | rfl | rfl | rfl <;>
    rcases mem_statementEnds.1 hx with rfl | rfl | rfl | rfl | rfl | rfl | rfl | rfl | rfl <;> rfl

theorem matchAt?_closer_block {z x : Symbol} (hz : z ∈ closers) (hx : x ∈ .block :: statementEnds)
    (below : List Symbol) : Grammar.blocks.matchAt? (z :: .block :: x :: below) = none := by
  rcases List.mem_cons.1 hx with rfl | hx
  · rcases mem_closers.1 hz with rfl | rfl | rfl | rfl <;> rfl
  · rcases mem_closers.1 hz with rfl | rfl | rfl | rfl <;>
      rcases mem_statementEnds.1 hx with rfl | rfl | rfl | rfl | rfl | rfl | rfl | rfl | rfl <;> rfl

theorem matchAt?_elseIfBlock {x : Symbol} (hx : x ∈ .block :: statementEnds) (below : List Symbol) :
    Grammar.blocks.matchAt? (.endIf :: .elseIfBlock :: x :: below) = none ∧
      Grammar.blocks.matchAt? (.elseIfBlock :: x :: below) = none := by
  rcases List.mem_cons.1 hx with rfl | hx
  · exact ⟨rfl, rfl⟩
  · rcases mem_statementEnds.1 hx with rfl | rfl | rfl | rfl | rfl | rfl | rfl | rfl | rfl <;>
      exact ⟨rfl, rfl⟩

theorem clear_nil : Clear [] where
  resting := fun _ _ _ => quiet_nil _
  resting_block := fun _ hx below => quiet_singleton.2 (matchAt?_block hx below)
  quiet_blocks := fun _ => quiet_nil _

/-- Under the end of a structure. -/
theorem Resting.clear_closer {k : List Symbol} (hk : Resting k) {z : Symbol} (hz : z ∈ closers) :
    Clear (k ++ [z]) where
  resting := fun x hx below => quiet_append.2
    ⟨hk z (mem_statementEnds_of_closers hz) _, quiet_singleton.2 (matchAt?_closer hz hx below)⟩
  resting_block := fun x hx below => by
    refine quiet_append.2 ⟨quiet_append.2 ⟨hk z (mem_statementEnds_of_closers hz) _, ?_⟩, ?_⟩
    · exact quiet_singleton.2 (matchAt?_closer_block hz (List.mem_cons_of_mem _ hx) below)
    · exact quiet_singleton.2 (matchAt?_block hx below)
  quiet_blocks := fun below => quiet_append.2
    ⟨hk z (mem_statementEnds_of_closers hz) _,
      quiet_singleton.2 (matchAt?_closer_block hz List.mem_cons_self below)⟩

theorem quiet_elseIfBlock {k : List Symbol} (hk : Resting k) {x : Symbol}
    (hx : x ∈ .block :: statementEnds) (below : List Symbol) :
    Quiet (k ++ [.endIf, .elseIfBlock]) (x :: below) := by
  obtain ⟨h₁, h₂⟩ := matchAt?_elseIfBlock hx below
  refine quiet_append.2 ⟨hk .endIf (by decide) _, ?_⟩
  exact quiet_append (k := [.endIf]).2 ⟨quiet_singleton.2 h₁, quiet_singleton.2 h₂⟩

/-- Under the further conditions of a conditional statement. -/
theorem Resting.clear_chain {k : List Symbol} (hk : Resting k) :
    Clear (k ++ [.endIf, .elseIfBlock]) where
  resting := fun _ hx below => quiet_elseIfBlock hk (List.mem_cons_of_mem _ hx) below
  resting_block := fun _ hx below => quiet_append.2
    ⟨quiet_elseIfBlock hk List.mem_cons_self _, quiet_singleton.2 (matchAt?_block hx below)⟩
  quiet_blocks := fun _ => quiet_elseIfBlock hk List.mem_cons_self _

/-! ### Reducing a construct in place -/

/-- Any number of steps on stacks of several symbols. -/
abbrev ProgramSteps : List Symbol → List Symbol → Prop := ReflTransGen ProgramStep

/-- What a construct is reduced to, under a part of the stack that lets it be reduced. -/
def Reducible : Construct → List Symbol → Prop
  | .statement, w => ∀ k below, Resting k → 1 < (k ++ (w.reverse ++ below)).length →
      ProgramSteps (k ++ (w.reverse ++ below)) (k ++ .block :: below)
  | .block, w => ∀ k below, Clear k → 1 < (k ++ (w.reverse ++ below)).length →
      ProgramSteps (k ++ (w.reverse ++ below)) (k ++ .block :: below)
  | .body, w => w = [] ∨ ∀ k below, Clear k → 1 < (k ++ (w.reverse ++ below)).length →
      ProgramSteps (k ++ (w.reverse ++ below)) (k ++ .block :: below)
  | .chain, w => ∀ k below, Resting k →
      ProgramSteps (k ++ .endIf :: (w.reverse ++ below)) (k ++ .endIf :: .elseIfBlock :: below)

section Closing

variable {k : List Symbol} (hk : Resting k) (below : List Symbol)

include hk

/-- The step at the end of a structure. -/
theorem step_closer {z : Symbol} {s r : List Symbol} {p : Production} (hz : z ∈ closers)
    (hm : Grammar.blocks.matchAt? (z :: s) = some (p, r)) (hne : s ≠ []) :
    ProgramStep (k ++ z :: s) (k ++ p.result :: r) := by
  refine step_of_quiet (hk z (mem_statementEnds_of_closers hz) s) ?_ hm
  have := List.length_pos_iff.2 hne
  simp only [List.length_append, List.length_cons]
  omega

/-- A head, a body and the symbol that closes it become a block. -/
theorem steps_enclosed {a z : Symbol} {w : List Symbol} (haz : (a, z) ∈ enclosures)
    (hw : Reducible .body w) :
    ProgramSteps (k ++ z :: (w.reverse ++ a :: below)) (k ++ .block :: below) := by
  have hz : z ∈ closers := by
    simp only [enclosures, List.mem_cons, Prod.mk.injEq, List.not_mem_nil, or_false] at haz
    rcases haz with ⟨-, rfl⟩ | ⟨-, rfl⟩ | ⟨-, rfl⟩ | ⟨-, rfl⟩ | ⟨-, rfl⟩ <;> decide
  have hmatch : (∃ p, p.result = .block ∧
        Grammar.blocks.matchAt? (z :: a :: below) = some (p, below)) ∧
      ∃ p, p.result = .block ∧
        Grammar.blocks.matchAt? (z :: .block :: a :: below) = some (p, below) := by
    simp only [enclosures, List.mem_cons, Prod.mk.injEq, List.not_mem_nil, or_false] at haz
    rcases haz with ⟨rfl, rfl⟩ | ⟨rfl, rfl⟩ | ⟨rfl, rfl⟩ | ⟨rfl, rfl⟩ | ⟨rfl, rfl⟩ <;>
      exact ⟨⟨_, rfl, rfl⟩, ⟨_, rfl, rfl⟩⟩
  obtain ⟨⟨p, hp, hpm⟩, ⟨q, hq, hqm⟩⟩ := hmatch
  rcases hw with rfl | hw
  · have hstep := step_closer hk hz hpm (by simp)
    rw [hp] at hstep
    exact .single hstep
  · have hbody := hw (k ++ [z]) (a :: below) (hk.clear_closer hz) (by simp; omega)
    have hstep := step_closer hk hz hqm (by simp)
    rw [hq] at hstep
    exact (by simpa using hbody : ProgramSteps _ (k ++ z :: .block :: a :: below)).tail hstep

/-- The alternative of a conditional statement is taken up by the end of the statement. -/
theorem steps_else {w : List Symbol} (hw : Reducible .block w) :
    ProgramSteps (k ++ .endIf :: (w.reverse ++ .elseHead :: below)) (k ++ .endIf :: below) := by
  have hbody := hw (k ++ [.endIf]) (.elseHead :: below) (hk.clear_closer (by decide))
    (by simp; omega)
  have hstep := step_closer hk (z := .endIf) (s := .block :: .elseHead :: below) (r := below)
    (p := ⟨[.elseHead, .block, .endIf], .endIf⟩) (by decide) rfl (by simp)
  rw [List.append_assoc, List.append_assoc] at hbody
  exact hbody.tail hstep

/-- The last of several conditions. -/
theorem steps_chainEnd {w : List Symbol} (hw : Reducible .block w) :
    ProgramSteps (k ++ .endIf :: (w.reverse ++ .elseIfHead :: below))
      (k ++ .endIf :: .elseIfBlock :: below) := by
  have hbody := hw (k ++ [.endIf]) (.elseIfHead :: below) (hk.clear_closer (by decide))
    (by simp; omega)
  have hquiet : Quiet (k ++ [.endIf]) (.block :: .elseIfHead :: below) :=
    quiet_append.2 ⟨hk .endIf (by decide) _, quiet_singleton.2 rfl⟩
  have hstep := step_of_quiet hquiet (by simp; omega) (p := ⟨[.elseIfHead, .block], .elseIfBlock⟩)
    (r := below) rfl
  simpa using hbody.tail hstep

/-- A condition before others is joined to them. -/
theorem steps_chainMore {w : List Symbol} (hw : Reducible .block w) :
    ProgramSteps (k ++ .endIf :: .elseIfBlock :: (w.reverse ++ .elseIfHead :: below))
      (k ++ .endIf :: .elseIfBlock :: below) := by
  have hbody := hw (k ++ [.endIf, .elseIfBlock]) (.elseIfHead :: below) hk.clear_chain
    (by simp; omega)
  have hfirst := step_of_quiet (quiet_elseIfBlock hk List.mem_cons_self (.elseIfHead :: below))
    (by simp; omega) (p := ⟨[.elseIfHead, .block], .elseIfBlock⟩) (r := below) rfl
  have hquiet : Quiet (k ++ [.endIf]) (.elseIfBlock :: .elseIfBlock :: below) :=
    quiet_append.2 ⟨hk .endIf (by decide) _, quiet_singleton.2 rfl⟩
  have hjoin := step_of_quiet hquiet (by simp; omega)
    (p := ⟨[.elseIfBlock, .elseIfBlock], .elseIfBlock⟩) (r := below) rfl
  have hlast : ProgramStep (k ++ [.endIf, .elseIfBlock] ++ .elseIfBlock :: below)
      (k ++ .endIf :: .elseIfBlock :: below) := by simpa using hjoin
  simpa using (hbody.tail hfirst).tail hlast

/-- The first condition closes the statement. -/
theorem steps_ifChain {w : List Symbol} (hw : Reducible .block w) :
    ProgramSteps (k ++ .endIf :: .elseIfBlock :: (w.reverse ++ .ifHead :: below))
      (k ++ .block :: below) := by
  have hbody := hw (k ++ [.endIf, .elseIfBlock]) (.ifHead :: below) hk.clear_chain
    (by simp; omega)
  have hfirst := step_of_quiet (quiet_elseIfBlock hk List.mem_cons_self (.ifHead :: below))
    (by simp; omega) (p := ⟨[.ifHead, .block], .ifBlock⟩) (r := below) rfl
  have hclose := step_closer hk (z := .endIf) (s := .elseIfBlock :: .ifBlock :: below)
    (r := below) (p := ⟨[.ifBlock, .elseIfBlock, .endIf], .block⟩) (by decide) rfl (by simp)
  have hlast : ProgramStep (k ++ [.endIf, .elseIfBlock] ++ .ifBlock :: below)
      (k ++ .block :: below) := by simpa using hclose
  simpa using (hbody.tail hfirst).tail hlast

end Closing

/-! ### Every structured program -/

/-- A statement or a block is one plain statement, or has at least two symbols. -/
theorem Structured.plain_or_long {c : Construct} {w : List Symbol} (h : Structured c w) :
    c = .statement ∨ c = .block → (∃ x ∈ plainStatements, w = [x]) ∨ 1 < w.length := by
  induction h with
  | plain hx => exact fun _ => .inl ⟨_, hx, rfl⟩
  | one _ ih => exact fun _ => ih (.inl rfl)
  | more _ _ ihv ihw =>
    intro _
    right
    rw [List.length_append]
    rcases ihv (.inl rfl) with ⟨x, -, rfl⟩ | hv <;> rcases ihw (.inr rfl) with ⟨y, -, rfl⟩ | hw <;>
      grind
  | enclosed | ifElse | ifChain | ifChainElse => exact fun _ => .inr (by grind)
  | empty | full | chainEnd | chainMore => rintro (h | h) <;> cases h

theorem steps_plain {x : Symbol} (hx : x ∈ plainStatements) {k : List Symbol} (hk : Resting k)
    (below : List Symbol) (hlen : 1 < (k ++ x :: below).length) :
    ProgramSteps (k ++ x :: below) (k ++ .block :: below) := by
  have hcases : x = .block ∨ x ∈ statementEnds ∧ ∃ p, p.result = .block ∧
      Grammar.blocks.matchAt? (x :: below) = some (p, below) := by
    simp only [plainStatements, List.mem_cons, List.not_mem_nil, or_false] at hx
    rcases hx with rfl | rfl | rfl | rfl | rfl | rfl
    case inr.inr.inr.inr.inr => exact .inl rfl
    all_goals exact .inr ⟨by decide, _, rfl, rfl⟩
  rcases hcases with rfl | ⟨hend, p, hp, hm⟩
  · exact .refl
  · have hstep := step_of_quiet (hk x hend below) hlen hm
    rw [hp] at hstep
    exact .single hstep

/-- **Every construct is reduced in place**, whatever lies to its left, and to its right a part of
the stack that rests. -/
theorem reducible_structured {c : Construct} {w : List Symbol} (h : Structured c w) :
    Reducible c w := by
  induction h with
  | plain hx =>
    intro k below hk hlen
    exact steps_plain hx hk below hlen
  | enclosed haz _ ih =>
    intro k below hk _
    simpa using steps_enclosed hk below haz ih
  | @ifElse v w _ _ ihv ihw =>
    intro k below hk _
    have helse := steps_else hk (v.reverse ++ .ifHead :: below) ihw
    have hif := steps_enclosed hk below (a := .ifHead) (z := .endIf) (by decide) ihv
    simpa using helse.trans hif
  | @ifChain v w _ _ ihv ihw =>
    intro k below hk _
    have hchain := ihw k (v.reverse ++ .ifHead :: below) hk
    simpa using hchain.trans (steps_ifChain hk below ihv)
  | @ifChainElse v w u _ _ _ ihv ihw ihu =>
    intro k below hk _
    have helse := steps_else hk (w.reverse ++ (v.reverse ++ .ifHead :: below)) ihu
    have hchain := ihw k (v.reverse ++ .ifHead :: below) hk
    simpa using (helse.trans hchain).trans (steps_ifChain hk below ihv)
  | one _ ih =>
    intro k below hk hlen
    exact ih k below hk.resting hlen
  | @more v w hv _ ihv ihw =>
    intro k below hk hlen
    -- the statements behind the first one become a block, then the first one does, and they join
    have hlen₂ : 1 < (k ++ [Symbol.block] ++ (v.reverse ++ below)).length := by
      rcases hv.plain_or_long (.inl rfl) with ⟨x, -, rfl⟩ | hv <;> grind
    have hrest := ihw k (v.reverse ++ below) hk (by simpa using hlen)
    have hfirst := ihv (k ++ [.block]) below hk.resting_block hlen₂
    have hjoin := step_of_quiet (hk.quiet_blocks below) (by simp; omega)
      (p := ⟨[.block, .block], .block⟩) (r := below) rfl
    simp only [List.append_assoc, List.singleton_append] at hfirst
    simpa using (hrest.trans hfirst).tail hjoin
  | empty => exact .inl rfl
  | full _ ih => exact .inr ih
  | chainEnd _ ih =>
    intro k below hk
    simpa using steps_chainEnd hk below ih
  | @chainMore v w _ _ ihv ihw =>
    intro k below hk
    have hchain := ihw k (v.reverse ++ .elseIfHead :: below) hk
    simpa using hchain.trans (steps_chainMore hk below ihv)

/-! ### The run of the reducer -/

theorem reduceProgram_structured {w : List Symbol} (h : Structured .block w) (hw : w ≠ [.block]) :
    (reduceProgram w).done = true ∧ (reduceProgram w).final = [.block] := by
  rcases h.plain_or_long (.inr rfl) with ⟨x, hx, rfl⟩ | hlong
  · simp only [plainStatements, List.mem_cons, List.not_mem_nil, or_false] at hx
    rcases hx with rfl | rfl | rfl | rfl | rfl | rfl
    case inr.inr.inr.inr.inr => exact absurd rfl hw
    all_goals decide +kernel
  · have hsteps := reducible_structured h [] [] clear_nil (by simpa using hlong)
    simp only [List.append_nil, List.nil_append] at hsteps
    obtain ⟨hne, hend⟩ := Grammar.endOf_run_of_steps (g := Grammar.program) hsteps rfl
      (by simpa using hlong)
    have hfinal : (reduceProgram w).final = [.block] := by
      have := endOf_map_reverse w.reverse (Grammar.program.run w.reverse)
      rw [hend, List.reverse_reverse] at this
      exact this
    refine ⟨?_, hfinal⟩
    have hdone : (reduceProgram w).done =
        (!((Grammar.program.run w.reverse).map List.reverse).isEmpty &&
          (reduceProgram w).final.length == 1) := rfl
    rw [hdone, hfinal]
    simpa using hne

namespace Parsing

/-- **Structured programs are accepted.** A program that is a block of nested statements, of any
size, is checked without a fault, and exactly one block is left of it. -/
theorem checkProgram_structured (s : Parsing) (h : Structured .block s.program) :
    ∃ reduced s', checkProgram s.layProgram = .ok reduced s' ∧ s'.program = [.block] ∧
      s'.current = [.block] := by
  have hcur : s.layProgram.current = s.program := rfl
  unfold checkProgram
  rw [hcur]
  by_cases hb : s.program = [.block]
  · exact ⟨false, _, if_pos hb, hb, hcur.trans hb⟩
  · obtain ⟨hdone, hfinal⟩ := reduceProgram_structured h hb
    let t : Parsing := { s.layProgram with
      program := (reduceProgram s.program).final
      bench := { s.layProgram.bench with grammar := .program } }
    refine ⟨true, t.record (reduceProgram s.program).steps, ?_, hfinal, hfinal⟩
    rw [if_neg hb]
    simp only [hdone, if_true]
    rfl

/-- A function with a loop over a condition, two further conditions, an alternative, and a call. -/
def nestedProgram : List Symbol :=
  [.functionHead, .forHead, .ifHead, .assignment, .call, .elseIfHead, .printing, .elseIfHead,
   .whileHead, .exiting, .endWhile, .block, .elseHead, .ifHead, .endIf, .returning, .endIf, .endFor,
   .endFunction, .call]

theorem structured_nestedProgram : Structured .block nestedProgram := by
  have hplain {x : Symbol} (hx : x ∈ plainStatements) : Structured .statement [x] := .plain hx
  have hwhile : Structured .statement [.whileHead, .exiting, .endWhile] :=
    .enclosed (w := [.exiting]) (by decide) (.full (.one (hplain (by decide))))
  have hif : Structured .statement [.ifHead, .endIf] := .enclosed (w := []) (by decide) .empty
  have hcondition : Structured .statement
      [.ifHead, .assignment, .call, .elseIfHead, .printing, .elseIfHead, .whileHead, .exiting,
       .endWhile, .block, .elseHead, .ifHead, .endIf, .returning, .endIf] :=
    .ifChainElse (v := [.assignment, .call])
      (w := [.elseIfHead, .printing, .elseIfHead, .whileHead, .exiting, .endWhile, .block])
      (u := [.ifHead, .endIf, .returning])
      (.more (v := [.assignment]) (hplain (by decide)) (.one (hplain (by decide))))
      (.chainMore (v := [.printing]) (.one (hplain (by decide)))
        (.chainEnd (.more hwhile (.one (hplain (by decide))))))
      (.more hif (.one (hplain (by decide))))
  have hfor := Structured.enclosed (a := .forHead) (z := .endFor) (by decide)
    (.full (.one hcondition))
  have hfunction := Structured.enclosed (a := .functionHead) (z := .endFunction) (by decide)
    (.full (.one hfor))
  exact .more hfunction (.one (hplain (by decide)))

theorem checkProgram_nestedProgram :
    Structured .block nestedProgram ∧
      ∃ reduced s', checkProgram (layProgram { program := nestedProgram }) = .ok reduced s' ∧
        s'.program = [.block] := by
  refine ⟨structured_nestedProgram, ?_⟩
  obtain ⟨reduced, s', h, hprogram, -⟩ :=
    checkProgram_structured { program := nestedProgram } structured_nestedProgram
  exact ⟨reduced, s', h, hprogram⟩

end Parsing

end BrightLint
