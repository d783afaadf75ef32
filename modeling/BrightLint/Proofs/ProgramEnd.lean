import BrightLint.Proofs.Acceptance
import BrightLint.Proofs.Nesting
import BrightLint.Proofs.Places
import BrightLint.Proofs.StructuredProgram

/-!
What an accepted program comes to. The reducer stops at any single symbol, and five symbols are
results of the program grammar; so a program can be accepted without being a block.

Which of the five is left can be told from the program. The first symbol is never reduced to one of
another kind, which settles all cases but one: a program that starts with the head of a condition may
come to a block, or to a condition that has no end. The latter is the case exactly if what follows
the head is a program of its own (`Ends.ifBlock_iff`), since the reducer then works on it as if there
was no head in front of it (`Level.reduce?_concat`).

* `Ends`: what the reducer makes of a stack, step by step
* `Ends.ifBlock_iff`: conditions without an end
* `Ends.leads_eq`: what the first symbol says
* `Ends.nestedBy`, `Ends.staysUp`: which structures have an end
* `Parsing.parse_program_end`: what is left of an accepted text
-/

namespace BrightLint

open Relation

/-! ### A symbol at the bottom of the stack -/

theorem Production.below?_concat {p : Production} {stack : List Symbol} {x : Symbol}
    (h : p.rhs.reverse ≠ stack ++ [x]) :
    p.below? (stack ++ [x]) = (p.below? stack).map (· ++ [x]) := by
  cases hb : p.below? stack with
  | some rest =>
    rw [below?_eq_some_iff] at hb
    rw [Option.map_some, below?_eq_some_iff, hb, List.append_assoc]
  | none =>
    rw [Option.map_none, Option.eq_none_iff_forall_not_mem]
    intro rest hrest
    have heq := below?_eq_some_iff.1 hrest
    rcases rest.eq_nil_or_concat' with rfl | ⟨r, y, rfl⟩
    · exact h (by simpa using heq.symm)
    · rw [← List.append_assoc] at heq
      have hstack := below?_eq_some_iff.2 (List.append_inj' heq rfl).1
      rw [hb] at hstack
      cases hstack

namespace Level

variable {l : Level} {t x : Symbol} {below stack next : List Symbol}

theorem matchAt?_concat (h : ∀ p ∈ l.filed t, p.rhs.reverse ≠ t :: below ++ [x]) :
    l.matchAt? (t :: below ++ [x]) =
      (l.matchAt? (t :: below)).map fun q => (q.1, q.2 ++ [x]) := by
  change matchTop? (l.filed t) (t :: below ++ [x]) = (matchTop? (l.filed t) (t :: below)).map _
  generalize l.filed t = ps at h
  induction ps with
  | nil => rfl
  | cons p ps ih =>
    have hp := Production.below?_concat (h p List.mem_cons_self)
    have ih := ih fun q hq => h q (List.mem_cons_of_mem _ hq)
    unfold matchTop? at ih ⊢
    rw [List.findSome?_cons, List.findSome?_cons, hp]
    cases p.below? (t :: below) with
    | some rest => rfl
    | none => exact ih

/-- A symbol that starts only right-hand sides in which nothing else can be reduced. -/
def LastToGo (l : Level) (x : Symbol) : Prop :=
  ∀ t, ∀ p ∈ l.filed t, ∀ rest, p.rhs = x :: rest → l.reduce? rest.reverse = none

/-- **What lies over such a symbol is reduced as if it was not there.** -/
theorem reduce?_concat (hx : l.LastToGo x) (h : l.reduce? stack = some next) :
    l.reduce? (stack ++ [x]) = some (next ++ [x]) := by
  induction stack generalizing next with
  | nil => cases h
  | cons t below ih =>
    have hcross : ∀ p ∈ l.filed t, p.rhs.reverse ≠ t :: below ++ [x] := fun p hp hrhs => by
      have hnone := hx t p hp (t :: below).reverse
        (by rw [← List.reverse_reverse p.rhs, hrhs]; simp)
      rw [List.reverse_reverse, h] at hnone
      cases hnone
    have hm := matchAt?_concat hcross
    cases hq : l.matchAt? (t :: below) with
    | some q =>
      rw [hq] at hm
      rw [reduce?_cons_of_match hq] at h
      cases h
      exact reduce?_cons_of_match hm
    | none =>
      rw [hq, Option.map_none, List.cons_append] at hm
      rw [reduce?_cons_of_none hq] at h
      obtain ⟨u, hu, rfl⟩ := Option.map_eq_some_iff.1 h
      rw [List.cons_append, reduce?_cons_of_none hm, ih hu]
      rfl

/-- A stack in which a right-hand side stands is reduced in some way. -/
theorem reduce?_ne_none {p : Production} (above below : List Symbol) (hp : p ∈ l.filed t)
    (ht : p.rhs.getLast? = some t) : l.reduce? (above ++ p.rhs.reverse ++ below) ≠ none := by
  intro hnone
  obtain ⟨rhs, hrhs⟩ : ∃ rhs, p.rhs.reverse ++ below = t :: rhs := by
    obtain ⟨rhs, hrhs⟩ := List.getLast?_eq_some_iff.1 ht
    exact ⟨rhs.reverse ++ below, by rw [hrhs]; simp⟩
  have hmatch := matchAt?_drop_of_reduce? hnone above.length
  rw [List.append_assoc, List.drop_left, hrhs] at hmatch
  have hp := List.findSome?_eq_none_iff.1 hmatch p hp
  rw [Option.map_eq_none_iff, ← hrhs, Production.below?_eq_some_iff.2 rfl] at hp
  cases hp

/-- **What is left over such a symbol was reduced as if it was not there.** -/
theorem exists_of_reduce?_concat (hx : l.LastToGo x)
    (hfiled : ∀ t, ∀ p ∈ l.filed t, p.rhs.getLast? = some t ∧ p.result ≠ x)
    (h : l.reduce? stack = some (next ++ [x])) :
    ∃ upper, stack = upper ++ [x] ∧ l.reduce? upper = some next := by
  obtain ⟨t, p, hp, above, below, rfl, hnext⟩ := exists_of_reduce? h
  obtain ⟨hlast, hres⟩ := hfiled t p hp
  rcases below.eq_nil_or_concat' with rfl | ⟨b, y, rfl⟩
  · exact absurd (List.append_inj' hnext rfl).2 (by simpa using hres.symm)
  · rw [← List.cons_append, ← List.append_assoc] at hnext
    obtain ⟨rfl, hxy⟩ := List.append_inj' hnext rfl
    obtain rfl : x = y := by simpa using hxy
    refine ⟨above ++ p.rhs.reverse ++ b, by simp, ?_⟩
    obtain ⟨u, hu⟩ := Option.ne_none_iff_exists'.1 (reduce?_ne_none above b hp hlast)
    have hu' := reduce?_concat hx hu
    rw [List.append_assoc _ b, h, Option.some.injEq] at hu'
    rw [hu, (List.append_inj' hu' rfl).1]

end Level

/-! ### The end of a run -/

/-- The reducer makes the single symbol `x` of a stack. -/
inductive Ends : List Symbol → Symbol → Prop
  | last {a : List Symbol} {x : Symbol} : Grammar.program.reduce? a = some [x] → Ends a x
  | step {a b : List Symbol} {x : Symbol} : Grammar.program.reduce? a = some b → b.length ≠ 1 →
      Ends b x → Ends a x

theorem ends_iff {stack : List Symbol} {x : Symbol} :
    Ends stack x ↔ Grammar.program.run stack ≠ [] ∧
      endOf stack (Grammar.program.run stack) = [x] := by
  constructor
  · intro h
    induction h with
    | last h => rw [Grammar.run_of_some h, if_pos List.length_singleton]; exact ⟨by simp, rfl⟩
    | step h hlen _ ih => rw [Grammar.run_of_some h, if_neg hlen, endOf_cons]; exact ⟨by simp, ih.2⟩
  · rintro ⟨hne, hend⟩
    cases hn : Grammar.program.reduce? stack with
    | none => exact absurd (Grammar.run_of_none hn) hne
    | some next =>
      have hlt := Grammar.weightOf_reduce?_lt hn
      rw [Grammar.run_of_some hn, endOf_cons] at hend
      split at hend
      · exact .last (by rw [hn]; exact congrArg some hend)
      · next hlen =>
        refine .step hn hlen (ends_iff.2 ⟨fun hnil => hlen ?_, hend⟩)
        rw [hnil] at hend
        rw [show next = [x] from hend]
        rfl
termination_by weightOf stack

/-- What a program comes to, if it is accepted: a single block as it stands, any other as the one
symbol that it is reduced to. -/
def programEnd? (st : List Symbol) : Option Symbol :=
  if st = [.block] then some .block
  else if (reduceProgram st).done then (reduceProgram st).final.head? else none

theorem ends_reverse_iff {st : List Symbol} {x : Symbol} :
    Ends st.reverse x ↔ (reduceProgram st).done = true ∧ (reduceProgram st).final = [x] := by
  have hfinal : (reduceProgram st).final =
      (endOf st.reverse (Grammar.program.run st.reverse)).reverse := by
    rw [← endOf_map_reverse, List.reverse_reverse]
    rfl
  have hdone : (reduceProgram st).done = true ↔
      Grammar.program.run st.reverse ≠ [] ∧ (reduceProgram st).final.length = 1 := by
    simp [reduceProgram]
  rw [ends_iff, hdone, hfinal, List.reverse_eq_iff, List.reverse_singleton]
  constructor
  · rintro ⟨hne, hend⟩
    exact ⟨⟨hne, by rw [hend]; rfl⟩, hend⟩
  · rintro ⟨⟨hne, -⟩, hend⟩
    exact ⟨hne, hend⟩

theorem not_ends_block {x : Symbol} : ¬ Ends [.block] x := by
  have hnone : Grammar.program.reduce? [.block] = none := by decide +kernel
  intro h
  cases h with
  | last h => rw [hnone] at h; cases h
  | step h => rw [hnone] at h; cases h

theorem programEnd?_eq_some_iff {st : List Symbol} {x : Symbol} :
    programEnd? st = some x ↔ st = [.block] ∧ x = .block ∨ Ends st.reverse x := by
  unfold programEnd?
  by_cases hb : st = [.block]
  · subst hb
    simp [not_ends_block, eq_comm]
  · rw [if_neg hb, ends_reverse_iff]
    simp only [hb, false_and, false_or]
    constructor
    · intro h
      split at h
      · next hdone =>
        obtain ⟨-, y, hy, -⟩ := reduceProgram_of_done hdone
        rw [hy] at h
        cases h
        exact ⟨hdone, hy⟩
      · cases h
    · rintro ⟨hdone, hfinal⟩
      rw [if_pos hdone, hfinal]
      rfl

/-! ### Conditions without an end -/

/-- The symbols over a head of a condition make up a program of their own. -/
def Complete (upper : List Symbol) : Prop :=
  upper = [.block] ∨ Ends upper .block ∨ Ends upper .ifBlock

theorem ifHead_lastToGo : Grammar.blocks.LastToGo .ifHead := by
  intro t p hp rest hrhs
  have hall : ∀ q ∈ Grammar.program.productions, q.rhs.head? = some .ifHead →
      Grammar.blocks.reduce? q.rhs.tail.reverse = none := by decide +kernel
  have hmem := Grammar.mem_productions_of_filed (g := .program) List.mem_cons_self hp
  simpa [hrhs] using hall p hmem (by rw [hrhs]; rfl)

theorem filed_blocks (t : Symbol) (p : Production) (hp : p ∈ Grammar.blocks.filed t) :
    p.rhs.getLast? = some t ∧ p.result ≠ .ifHead := by
  have hall : ∀ e ∈ Grammar.blocks, ∀ q ∈ e.2, q.rhs.getLast? = some e.1 ∧ q.result ≠ .ifHead := by
    decide +kernel
  obtain ⟨ps, hps, hp⟩ := Level.mem_of_filed hp
  exact hall (t, ps) hps p hp

theorem reduce?_over_ifHead {a b : List Symbol} (h : Grammar.program.reduce? a = some b) :
    Grammar.program.reduce? (a ++ [.ifHead]) = some (b ++ [.ifHead]) := by
  rw [reduce?_program] at h ⊢
  exact Level.reduce?_concat ifHead_lastToGo h

theorem exists_reduce?_over_ifHead {a b : List Symbol}
    (h : Grammar.program.reduce? a = some (b ++ [.ifHead])) :
    ∃ upper, a = upper ++ [.ifHead] ∧ Grammar.program.reduce? upper = some b := by
  simp only [reduce?_program] at h ⊢
  exact Level.exists_of_reduce?_concat ifHead_lastToGo filed_blocks h

theorem Ends.ne_nil {a : List Symbol} {x : Symbol} (h : Ends a x) : a ≠ [] := by
  have hnone : Grammar.program.reduce? [] = none := by decide +kernel
  rintro rfl
  cases h with
  | last h => rw [hnone] at h; cases h
  | step h => rw [hnone] at h; cases h

theorem Complete.ends {upper : List Symbol} (h : Complete upper) :
    Ends (upper ++ [.ifHead]) .ifBlock := by
  have hblock : Ends [.block, .ifHead] .ifBlock := .last (by decide +kernel)
  have hifBlock : Ends [.ifBlock, .ifHead] .ifBlock :=
    .step (b := [.block, .ifHead]) (by decide +kernel) (by decide) hblock
  -- the steps of the program over the head, and then those of its last symbol
  have hsteps : ∀ {a y}, Ends a y → Ends [y, .ifHead] .ifBlock →
      Ends (a ++ [.ifHead]) .ifBlock := by
    intro a y ha hy
    induction ha with
    | last h => exact .step (reduce?_over_ifHead h) (by simp) hy
    | step h _ hb ih => exact .step (reduce?_over_ifHead h) (by simpa using hb.ne_nil) (ih hy)
  rcases h with rfl | h | h
  · exact hblock
  · exact hsteps h hblock
  · exact hsteps h hifBlock

/-- The results of the program grammar. -/
def programEnds : List Symbol := [.block, .ifBlock, .elseIfBlock, .endIf, .anonymousFunction]

/-- The production of the last step. -/
theorem exists_production_of_last {a : List Symbol} {x : Symbol}
    (h : Grammar.program.reduce? a = some [x]) :
    ∃ p ∈ Grammar.program.productions, p.result = x ∧ a = p.rhs.reverse := by
  obtain ⟨p, hp, u, v, ha, hx⟩ := Grammar.reduces_of_reduce? h
  obtain ⟨rfl, rfl, rfl⟩ : u = [] ∧ v = [] ∧ x = p.result := by
    cases u with
    | nil => simpa [and_comm] using hx
    | cons y u => simp at hx
  refine ⟨p, hp, rfl, ?_⟩
  rw [List.nil_append, List.append_nil, List.reverse_eq_iff] at ha
  exact ha

theorem mem_programEnds_of_last {a : List Symbol} {x : Symbol}
    (h : Grammar.program.reduce? a = some [x]) : x ∈ programEnds := by
  have hall : ∀ p ∈ Grammar.program.productions, p.result ∈ programEnds := by decide +kernel
  obtain ⟨p, hp, rfl, -⟩ := exists_production_of_last h
  exact hall p hp

/-- Of the results, only a condition can be reduced further by itself. -/
theorem ends_singleton {x y : Symbol} (hx : x ∈ programEnds) (h : Ends [x] y) : x = .ifBlock := by
  have hall : ∀ z ∈ programEnds, z ≠ .ifBlock → Grammar.program.reduce? [z] = none := by
    decide +kernel
  by_contra hne
  have hnone := hall x hx hne
  cases h with
  | last h => rw [hnone] at h; cases h
  | step h => rw [hnone] at h; cases h

theorem Complete.of_step {upper next : List Symbol}
    (h : Grammar.program.reduce? upper = some next) (hnext : Complete next) : Complete upper := by
  by_cases hlen : next.length = 1
  · obtain ⟨x, rfl⟩ := List.length_eq_one_iff.1 hlen
    rcases hnext with hb | hends
    · obtain rfl : x = .block := by simpa using hb
      exact .inr (.inl (.last h))
    · have hmem := mem_programEnds_of_last h
      obtain rfl : x = .ifBlock := hends.elim (ends_singleton hmem) (ends_singleton hmem)
      exact .inr (.inr (.last h))
  · rcases hnext with rfl | hends
    · exact absurd rfl hlen
    · exact .inr (hends.imp (.step h hlen) (.step h hlen))

/-- **Conditions without an end**: a program comes to one exactly if it is the head of a condition
and a program of its own. -/
theorem Ends.ifBlock_iff {stack : List Symbol} :
    Ends stack .ifBlock ↔ ∃ upper, stack = upper ++ [.ifHead] ∧ Complete upper := by
  constructor
  · intro h
    generalize hx : Symbol.ifBlock = x at h
    induction h with
    | last h =>
      subst hx
      have hall : ∀ p ∈ Grammar.program.productions, p.result = .ifBlock →
          p.rhs = [.ifHead, .block] := by decide +kernel
      obtain ⟨p, hp, hres, rfl⟩ := exists_production_of_last h
      exact ⟨[.block], by rw [hall p hp hres]; rfl, .inl rfl⟩
    | step h _ _ ih =>
      obtain ⟨next, rfl, hnext⟩ := ih hx
      obtain ⟨upper, rfl, hupper⟩ := exists_reduce?_over_ifHead h
      exact ⟨upper, rfl, hnext.of_step hupper⟩
  · rintro ⟨upper, rfl, h⟩
    exact h.ends

/-! ### What the first symbol says -/

/-- What a program that starts with a symbol comes to, a condition without an end being taken for a
block. -/
def Symbol.leads : Symbol → Symbol
  | .elseIfHead | .elseIfBlock => .elseIfBlock
  | .elseHead | .endIf => .endIf
  | .anonymousHead | .anonymousFunction => .anonymousFunction
  | _ => .block

theorem Grammar.Reduces.head?_leads {a b : List Symbol} (h : Grammar.program.Reduces a b) :
    a.head?.map Symbol.leads = b.head?.map Symbol.leads := by
  have hall : ∀ p ∈ Grammar.program.productions,
      p.rhs ≠ [] ∧ p.rhs.head?.map Symbol.leads = some p.result.leads := by decide +kernel
  obtain ⟨p, hp, u, v, rfl, rfl⟩ := h
  cases u with
  | nil =>
    obtain ⟨hne, hleads⟩ := hall p hp
    rw [List.nil_append, List.head?_append_of_ne_nil _ hne, hleads]
    rfl
  | cons t u => rfl

/-- **The first symbol keeps its kind.** -/
theorem Ends.leads_eq {stack : List Symbol} {x : Symbol} (h : Ends stack x) :
    stack.reverse.head?.map Symbol.leads = some x.leads := by
  induction h with
  | last h => rw [(Grammar.reduces_of_reduce? h).head?_leads]; rfl
  | step h _ _ ih => rw [(Grammar.reduces_of_reduce? h).head?_leads, ih]

theorem Ends.mem_programEnds {stack : List Symbol} {x : Symbol} (h : Ends stack x) :
    x ∈ programEnds := by
  induction h with
  | last h => exact mem_programEnds_of_last h
  | step _ _ _ ih => exact ih

/-! ### Which structures have an end -/

/-- What a symbol does to the number of structures that are still to be closed by `z`. -/
def Symbol.riseTo (z t : Symbol) : Int :=
  if t = z then -1
  else if (t, z) ∈ enclosures ∨ (t, z) = (.anonymousHead, .endFunction) ∨ (t, z) = (.ifBlock, .endIf)
  then 1 else 0

/-- The parts of a condition have to stand behind its head. -/
def Symbol.needsIf (t : Symbol) : Nat :=
  if t ∈ [.elseIfHead, .elseIfBlock, .elseHead, .endIf] then 1 else 0

/-- **Loops and functions have an end.** -/
theorem Ends.nestedBy {stack : List Symbol} {x z : Symbol}
    (hz : z ∈ [.endWhile, .endFor, .endFunction]) (h : Ends stack x) :
    NestedBy z.riseTo stack.reverse := by
  have hall : ∀ z ∈ [Symbol.endWhile, .endFor, .endFunction],
      ∀ p ∈ Grammar.program.productions, z.riseTo p.result = 0 ∧ NestedBy z.riseTo p.rhs := by
    decide +kernel
  induction h with
  | last h =>
    obtain ⟨p, hp, -, rfl⟩ := exists_production_of_last h
    simpa using (hall z hz p hp).2
  | step h _ _ ih => exact (Grammar.reduces_of_reduce? h).nestedBy (hall z hz) ih

/-- **Parts of a condition stand behind a head**, unless one of them is all that is left. -/
theorem Ends.staysUp {stack : List Symbol} {x : Symbol} (hx : x = .block ∨ x = .ifBlock)
    (h : Ends stack x) : StaysUp (Symbol.riseTo .endIf) Symbol.needsIf 0 stack.reverse := by
  have hall : ∀ p ∈ Grammar.program.productions,
      StaysUp (Symbol.riseTo .endIf) Symbol.needsIf p.result.needsIf p.rhs ∧
        Symbol.riseTo .endIf p.result ≤ heightBy (Symbol.riseTo .endIf) p.rhs := by decide +kernel
  induction h with
  | last h =>
    refine (Grammar.reduces_of_reduce? h).staysUp hall ?_
    rcases hx with rfl | rfl <;> decide
  | step h _ _ ih => exact (Grammar.reduces_of_reduce? h).staysUp hall (ih hx)

/-! ### Programs -/

/-- The symbols of parts of structures: a program that starts with one does not come to a block. -/
def partHeads : List Symbol :=
  [.elseIfHead, .elseIfBlock, .elseHead, .endIf, .anonymousHead, .anonymousFunction]

/-- What an accepted program comes to. -/
structure ProgramEnd (st : List Symbol) (x : Symbol) : Prop where
  accepted : programEnd? st = some x
  mem : x ∈ programEnds
  /-- It is a block, unless the program starts with a part of a structure, or with the head of a
  condition before a program of its own. -/
  block_iff : x = .block ↔ (∀ t ∈ st.head?, t ∉ partHeads) ∧
    ∀ rest, st = .ifHead :: rest →
      programEnd? rest ≠ some .block ∧ programEnd? rest ≠ some .ifBlock
  /-- Loops and functions have an end. -/
  nested : ∀ z ∈ [.endWhile, .endFor, .endFunction], NestedBy (Symbol.riseTo z) st
  /-- In a block, parts of a condition stand behind its head. -/
  held : x = .block → StaysUp (Symbol.riseTo .endIf) Symbol.needsIf 0 st

theorem Symbol.leads_eq_block_iff {t : Symbol} : t.leads = .block ↔ t ∉ partHeads := by
  cases t <;> simp [leads, partHeads]

theorem complete_reverse_iff {rest : List Symbol} :
    Complete rest.reverse ↔ programEnd? rest = some .block ∨ programEnd? rest = some .ifBlock := by
  simp [programEnd?_eq_some_iff, Complete, List.reverse_eq_iff, or_assoc]

/-- Conditions without an end, in reading order. -/
theorem Ends.eq_ifBlock_iff {st : List Symbol} {x : Symbol} (h : Ends st.reverse x) :
    x = .ifBlock ↔ ∃ rest, st = .ifHead :: rest ∧
      (programEnd? rest = some .block ∨ programEnd? rest = some .ifBlock) := by
  have hsame : x = .ifBlock ↔ Ends st.reverse .ifBlock := by
    refine ⟨fun hx => hx ▸ h, fun h' => ?_⟩
    simpa using (ends_iff.1 h).2.symm.trans (ends_iff.1 h').2
  rw [hsame, Ends.ifBlock_iff]
  simp only [← complete_reverse_iff]
  constructor
  · rintro ⟨upper, heq, hupper⟩
    rw [List.reverse_eq_iff, List.reverse_concat] at heq
    exact ⟨upper.reverse, heq, by rwa [List.reverse_reverse]⟩
  · rintro ⟨rest, rfl, hrest⟩
    exact ⟨rest.reverse, List.reverse_cons, hrest⟩

/-- **What an accepted program comes to.** -/
theorem programEnd_of_accepted {st : List Symbol} {x : Symbol} (h : programEnd? st = some x) :
    ProgramEnd st x := by
  rcases programEnd?_eq_some_iff.1 h with ⟨rfl, rfl⟩ | hends
  · exact ⟨h, by decide, by simp [partHeads], by decide, fun _ => by decide⟩
  · have hmem := hends.mem_programEnds
    have hnested := fun z hz => hends.nestedBy (z := z) hz
    have hstays := fun hx => hends.staysUp (.inl hx)
    have hleads := hends.leads_eq
    simp only [List.reverse_reverse] at hnested hstays hleads
    refine ⟨h, hmem, ?_, hnested, hstays⟩
    obtain ⟨t, ht, htx⟩ := Option.map_eq_some_iff.1 hleads
    have hblock : x = .block ↔ x.leads = .block ∧ x ≠ .ifBlock := by
      have hall : ∀ y ∈ programEnds, y = .block ↔ y.leads = .block ∧ y ≠ .ifBlock := by decide
      exact hall x hmem
    rw [hblock, ← htx, Symbol.leads_eq_block_iff, Ne, hends.eq_ifBlock_iff, ht]
    simp [not_or]

namespace Parsing

/-! ### Texts -/

/-- What the statements of a text are reduced to, before they are put together. -/
def statementSymbols (p : Profile) (text : List Char) : Option (List Symbol) :=
  match (do readText p text; checkLast : Parse Unit).run {} with
  | .ok () s => some s.program
  | .error _ _ => none

/-- What is left of the program of a text that is accepted. -/
def acceptedProgram (p : Profile) (text : List Char) : Option (List Symbol) :=
  match (parse p text).run {} with
  | .ok () s => if s.reading.problems = [] then some s.program else none
  | .error _ _ => none

theorem checkProgram_end {s s' : Parsing} {b : Bool} (h : checkProgram (layProgram s) = .ok b s') :
    ∃ x, s'.program = [x] ∧ programEnd? s.program = some x := by
  have hcurrent : (layProgram s).current = s.program := rfl
  unfold checkProgram at h
  unfold programEnd?
  simp only [hcurrent] at h
  split at h
  · next hblock =>
    cases h
    exact ⟨.block, hblock, if_pos hblock⟩
  · next hblock =>
    split at h <;> cases h
    next hdone =>
      obtain ⟨-, x, hx, -⟩ := reduceProgram_of_done hdone
      refine ⟨x, hx, ?_⟩
      rw [if_neg hblock, if_pos hdone, hx]
      rfl

theorem statementSymbols_of_ok {p : Profile} {text : List Char} {s₁ s₂ : Parsing}
    (hread : readText p text {} = .ok () s₁) (hlast : checkLast s₁ = .ok () s₂) :
    statementSymbols p text = some s₂.program := by
  have hrun : (do readText p text; checkLast : Parse Unit).run {} = .ok () s₂ :=
    (bind_of_ok hread).trans hlast
  unfold statementSymbols
  rw [hrun]

/-- **What is left of an accepted text** is a single symbol. It is a block, unless the first
statement is a part of a structure, or the head of a condition before statements that would be
accepted by themselves. Whatever is left, loops and functions have an end; if it is a block, no part
of a condition stands by itself. -/
theorem parse_program_end (p : Profile) (text : List Char) (program : List Symbol)
    (h : acceptedProgram p text = some program) :
    ∃ st x, statementSymbols p text = some st ∧ program = [x] ∧ ProgramEnd st x := by
  unfold acceptedProgram at h
  split at h
  · next s hs =>
    split at h <;> cases h
    next hp =>
      obtain ⟨s₁, s₂, b, hread, hlast, hprog⟩ := parse_ok hs hp
      obtain ⟨x, hx, hend⟩ := checkProgram_end hprog
      exact ⟨s₂.program, x, statementSymbols_of_ok hread hlast, hx, programEnd_of_accepted hend⟩
  · cases h

/-- A function whose loop is left by a condition that has no end, and then a condition that has. -/
def earlyReturnText : List Char :=
  "sub f()\nwhile x\nif y\nexit while\nend while\nend sub\nif x\nprint x\nelse\nprint y\nend if".toList

theorem parse_program_end_earlyReturn :
    acceptedProgram sampleProfile earlyReturnText = some [.block] ∧
      ∃ st, statementSymbols sampleProfile earlyReturnText = some st ∧ ProgramEnd st .block := by
  have haccepted : acceptedProgram sampleProfile earlyReturnText = some [.block] := by
    decide +kernel
  obtain ⟨st, x, hst, hx, hend⟩ := parse_program_end _ _ _ haccepted
  obtain rfl : Symbol.block = x := by simpa using hx
  exact ⟨haccepted, st, hst, hend⟩

/-- A condition without an end is all that is left of some accepted texts, and an end without a
condition of others. -/
theorem acceptedProgram_parts :
    acceptedProgram sampleProfile "if x\ny = 1".toList = some [.ifBlock] ∧
      acceptedProgram sampleProfile "else\nx = 1\nend if".toList = some [.endIf] := by
  decide +kernel

end Parsing

end BrightLint
