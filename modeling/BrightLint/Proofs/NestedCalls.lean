import BrightLint.Proofs.History
import BrightLint.Proofs.ReductionSteps

/-!
Nested calls are accepted, whatever the number of their arguments and the depth of the nesting.

A bracket with at most one symbol in it is passed over. Any other is remembered, and by the time it
closes the calls inside have become short: each has at most one symbol between its brackets
(`Argument.compact`). What stands in the bracket is then reduced on its own. The level of the calls
comes first and turns each of them into one symbol, from the last to the first; only when it has
nothing more to do are the arguments joined, again from the last to the first.

* `Argument`: calls and their arguments, as trees and as lists of symbols
* `Argument.steps_heads`, `steps_join`: the two stages of the reduction of arguments
* `Bench.ScansTo`: what symbols have become when the bench has passed them
* `Argument.scansTo_symbols`: a call has become short
* `Parsing.checkStatement_call`: a call as a statement
-/

namespace BrightLint

open Relation

/-! ### Calls -/

/-- What can be called. -/
inductive Callee where
  | ident | builtIn
deriving DecidableEq, Repr

def Callee.symbol : Callee → Symbol
  | ident => .ident
  | builtIn => .builtIn

/-- What can be an argument: a name, a value, or again a call. -/
inductive Argument where
  | name
  | value
  | call (f : Callee) (args : List Argument)

/-- Lists of symbols with a comma between each two. -/
def separated : List (List Symbol) → List Symbol
  | [] => []
  | [w] => w
  | w :: v :: ws => w ++ .comma :: separated (v :: ws)

namespace Argument

mutual
/-- The symbols of an argument. -/
def symbols : Argument → List Symbol
  | .name => [.ident]
  | .value => [.value]
  | .call f args => f.symbol :: .openParen :: (separated (pieces args) ++ [.closeParen])
/-- The symbols of each of several arguments. -/
def pieces : List Argument → List (List Symbol)
  | [] => []
  | a :: args => a.symbols :: pieces args
end

theorem pieces_eq (args : List Argument) : pieces args = args.map symbols := by
  induction args with
  | nil => rfl
  | cons a args ih => rw [pieces, ih, List.map_cons]

theorem symbols_call (f : Callee) (args : List Argument) :
    (call f args).symbols =
      f.symbol :: .openParen :: (separated (args.map symbols) ++ [.closeParen]) := by
  rw [symbols, pieces_eq]

/-- The symbols of `f(x, int(1))`. -/
example : (call .ident [.name, .call .builtIn [.value]]).symbols =
    [.ident, .openParen, .ident, .comma, .builtIn, .openParen, .value, .closeParen,
      .closeParen] := rfl

/-- The symbol that an argument becomes. -/
def head : Argument → Symbol
  | .name => .ident
  | .value => .value
  | .call _ _ => .call

/-- What is left between the brackets of a call when they have closed. -/
def content : List Argument → List Symbol
  | [] => []
  | [a] => [a.head]
  | _ :: _ :: _ => [.argument]

/-- What is left of an argument when the brackets in it have closed. -/
def compact : Argument → List Symbol
  | .call f args => f.symbol :: .openParen :: (content args ++ [.closeParen])
  | a => [a.head]

/-- Induction on the depth of calls. -/
@[elab_as_elim, induction_eliminator]
theorem ind {P : Argument → Prop} (name : P .name) (value : P .value)
    (call : ∀ f args, (∀ a ∈ args, P a) → P (.call f args)) (a : Argument) : P a := by
  refine @Argument.rec P (fun args => ∀ a ∈ args, P a) name value call (by simp) ?_ a
  intro b args hb hargs c hc
  rcases List.mem_cons.1 hc with rfl | hc
  · exact hb
  · exact hargs c hc

/-! ### The symbols that occur -/

/-- The symbols that arguments become, one by one or joined. -/
def items : List Symbol := [.ident, .value, .call, .argument]

/-- The symbols of arguments in which the brackets have closed. -/
def alphabet : List Symbol := items ++ [.comma, .builtIn, .openParen, .closeParen]

theorem head_mem_items (a : Argument) : a.head ∈ items := by
  cases a <;> simp [head, items]

theorem mem_alphabet_of_items {x : Symbol} (hx : x ∈ items) : x ∈ alphabet :=
  List.mem_append_left _ hx

/-- What is left between the brackets of a call is at most one symbol. -/
theorem content_cases (args : List Argument) :
    content args = [] ∨ ∃ x ∈ items, content args = [x] := by
  rcases args with _ | ⟨a, _ | ⟨b, args⟩⟩
  · exact .inl rfl
  · exact .inr ⟨a.head, a.head_mem_items, rfl⟩
  · exact .inr ⟨.argument, by decide, rfl⟩

theorem compact_subset (a : Argument) : a.compact ⊆ alphabet := by
  cases a with
  | name | value => decide
  | call f args =>
    have hf : f.symbol ∈ alphabet := by cases f <;> decide
    have hcontent : content args ⊆ alphabet := by
      rcases content_cases args with h | ⟨x, hx, h⟩
      · simp [h]
      · simpa [h] using mem_alphabet_of_items hx
    refine List.cons_subset.2 ⟨hf, List.cons_subset.2 ⟨by decide, ?_⟩⟩
    exact List.append_subset.2 ⟨hcontent, by decide⟩

end Argument

theorem separated_subset {ws : List (List Symbol)} {alphabet : List Symbol}
    (hcomma : .comma ∈ alphabet) (hws : ∀ w ∈ ws, w ⊆ alphabet) : separated ws ⊆ alphabet := by
  fun_induction separated ws with
  | case1 => exact List.nil_subset _
  | case2 w => exact hws w List.mem_cons_self
  | case3 w v ws ih =>
    refine List.append_subset.2 ⟨hws w List.mem_cons_self, List.cons_subset.2 ⟨hcomma, ?_⟩⟩
    exact ih fun u hu => hws u (List.mem_cons_of_mem _ hu)

/-! ### Every call becomes one symbol -/

namespace Argument

/-- Arguments that have become one symbol each. -/
def heads (args : List Argument) : List Symbol := separated (args.map fun a => [a.head])

/-- The part of a stack in which the level of the calls has nothing to do. -/
def Done (upper : List Symbol) : Prop := upper ⊆ .comma :: items

theorem Done.subset {upper : List Symbol} (h : Done upper) : upper ⊆ alphabet :=
  fun _ hx => (by decide : Symbol.comma :: items ⊆ alphabet) (h hx)

theorem done_heads (args : List Argument) : Done (heads args) := by
  refine separated_subset List.mem_cons_self fun w hw => ?_
  obtain ⟨a, -, rfl⟩ := List.mem_map.1 hw
  simpa using .inr a.head_mem_items

/-- The production for a call whose brackets have closed. -/
theorem exists_matchAt?_call (f : Callee) (args : List Argument) (below : List Symbol) :
    ∃ p : Production, p.result = .call ∧
      Grammar.calls.matchAt? ((call f args).compact.reverse ++ below) = some (p, below) := by
  rcases content_cases args with h | ⟨x, hx, h⟩
  · rw [compact, h]
    cases f <;> exact ⟨_, rfl, rfl⟩
  · rw [compact, h]
    simp only [items, List.mem_cons, List.not_mem_nil, or_false] at hx
    rcases hx with rfl | rfl | rfl | rfl <;> cases f <;> exact ⟨_, rfl, rfl⟩

/-- **The last call that is left** becomes one symbol. -/
theorem step_call (f : Callee) (args : List Argument) {upper below : List Symbol}
    (hupper : Done upper) (hbelow : below ⊆ alphabet) :
    Grammar.statement.Step (upper ++ ((call f args).compact.reverse ++ below))
      (upper ++ .call :: below) := by
  have hstack : upper ++ ((call f args).compact.reverse ++ below) ⊆ alphabet :=
    List.append_subset.2 ⟨hupper.subset, List.append_subset.2
      ⟨fun _ hx => compact_subset _ (List.mem_reverse.1 hx), hbelow⟩⟩
  refine Grammar.step_of_foreign (k := 0) (l := Grammar.calls) rfl hstack (by simp [compact]; omega)
    rfl ?_
  have hforeign : ∀ t ∈ Symbol.comma :: items,
      (Grammar.calls.filed t).all (·.isForeign alphabet) = true := by decide +kernel
  obtain ⟨p, hp, hm⟩ := exists_matchAt?_call f args below
  rw [Level.reduce?_append (fun t ht => hforeign t (hupper ht)) hstack,
    Level.reduce?_of_match (i := 0) (fun _ hj => absurd hj (by omega)) hm, hp]
  rfl

theorem steps_head (a : Argument) {upper below : List Symbol} (hupper : Done upper)
    (hbelow : below ⊆ alphabet) :
    Grammar.statement.Steps (upper ++ (a.compact.reverse ++ below)) (upper ++ a.head :: below) := by
  cases a with
  | name | value => exact .refl
  | call f args => exact .single (step_call f args hupper hbelow)

/-- **Arguments become one symbol each**, from the last to the first. -/
theorem steps_heads (args : List Argument) {upper below : List Symbol} (hupper : Done upper)
    (hbelow : below ⊆ alphabet) :
    Grammar.statement.Steps (upper ++ ((separated (args.map compact)).reverse ++ below))
      (upper ++ ((heads args).reverse ++ below)) := by
  rcases args with _ | ⟨a, _ | ⟨b, args⟩⟩
  · exact .refl
  · exact steps_head a hupper hbelow
  · -- the arguments behind the first become single symbols, and then the first does
    have hbehind : .comma :: (a.compact.reverse ++ below) ⊆ alphabet :=
      List.cons_subset.2 ⟨by decide, List.append_subset.2
        ⟨fun _ hx => compact_subset _ (List.mem_reverse.1 hx), hbelow⟩⟩
    have hrest := steps_heads (b :: args) hupper hbehind
    have hdone : Done (upper ++ (heads (b :: args)).reverse ++ [.comma]) := by
      refine List.append_subset.2 ⟨List.append_subset.2 ⟨hupper, ?_⟩, by simp⟩
      exact fun _ hx => done_heads _ (List.mem_reverse.1 hx)
    have hfirst := steps_head a hdone hbelow
    simp only [heads, List.map_cons, separated, List.reverse_append, List.reverse_cons,
      List.append_assoc, List.nil_append, List.cons_append] at hrest hfirst ⊢
    exact hrest.trans hfirst

end Argument

/-! ### Arguments are joined -/

/-- The last argument on a stack, and below it each comma with the argument before it. -/
def listed (last : Symbol) (below : List Symbol) : List Symbol :=
  last :: below.flatMap fun x => [.comma, x]

theorem Argument.exists_listed (a : Argument) (args : List Argument) :
    ∃ x ∈ Argument.items, ∃ below ⊆ Argument.items, below.length = args.length ∧
      (Argument.heads (a :: args)).reverse = listed x below := by
  induction args generalizing a with
  | nil => exact ⟨a.head, a.head_mem_items, [], List.nil_subset _, rfl, rfl⟩
  | cons b args ih =>
    obtain ⟨x, hx, below, hbelow, hlen, h⟩ := ih b
    refine ⟨x, hx, below ++ [a.head], ?_, by simp [hlen], ?_⟩
    · exact List.append_subset.2 ⟨hbelow, by simpa using a.head_mem_items⟩
    · simp only [heads, List.map_cons, separated, List.reverse_append, List.reverse_cons] at h ⊢
      simp [h, listed]

theorem listed_subset {x : Symbol} {below : List Symbol} (hx : x ∈ Argument.items)
    (hbelow : below ⊆ Argument.items) : listed x below ⊆ .comma :: Argument.items := by
  refine List.cons_subset.2 ⟨List.mem_cons_of_mem _ hx, fun y hy => ?_⟩
  obtain ⟨z, hz, hy⟩ := List.mem_flatMap.1 hy
  simp only [List.mem_cons, List.not_mem_nil, or_false] at hy
  rcases hy with rfl | rfl
  · exact List.mem_cons_self
  · exact List.mem_cons_of_mem _ (hbelow hz)

/-- Two arguments with a comma between them are joined, whatever lies below them. -/
theorem exists_matchAt?_join {x y : Symbol} (hx : x ∈ Argument.items) (hy : y ∈ Argument.items)
    (below : List Symbol) :
    ∃ p : Production, p.result = .argument ∧
      Grammar.arguments.matchAt? (x :: .comma :: y :: below) = some (p, below) := by
  simp only [Argument.items, List.mem_cons, List.not_mem_nil, or_false] at hx hy
  rcases hx with rfl | rfl | rfl | rfl <;> rcases hy with rfl | rfl | rfl | rfl <;>
    exact ⟨_, rfl, rfl⟩

theorem step_join {x y : Symbol} {below : List Symbol} (hx : x ∈ Argument.items)
    (hbelow : y :: below ⊆ Argument.items) :
    Grammar.statement.Step (listed x (y :: below)) (listed .argument below) := by
  obtain ⟨p, hp, hm⟩ := exists_matchAt?_join hx (hbelow List.mem_cons_self)
    (below.flatMap fun x => [.comma, x])
  refine Grammar.step_of_foreign (k := 4) (l := Grammar.arguments) (by decide +kernel)
    (listed_subset hx hbelow) (by simp [listed]) rfl ?_
  have hstep := Level.reduce?_cons_of_match hm
  rwa [hp] at hstep

/-- **Two arguments or more are joined to one**, from the last to the first. -/
theorem steps_join {x y : Symbol} {below : List Symbol} (hx : x ∈ Argument.items)
    (hbelow : y :: below ⊆ Argument.items) :
    Grammar.statement.Steps (listed x (y :: below)) [.argument] := by
  induction below generalizing x y with
  | nil => exact .single (step_join hx hbelow)
  | cons z below ih =>
    exact .head (step_join hx hbelow)
      (ih (by decide) fun u hu => hbelow (List.mem_cons_of_mem _ hu))

namespace Argument

/-- Whether the brackets around arguments are passed over. -/
def isShort : List Argument → Bool
  | [] | [.name] | [.value] => true
  | _ => false

theorem eq_of_isShort {args : List Argument} (h : isShort args = true) :
    args = [] ∨ args = [.name] ∨ args = [.value] := by
  unfold isShort at h
  split at h
  · exact .inl rfl
  · exact .inr (.inl rfl)
  · exact .inr (.inr rfl)
  · cases h

/-- **What stands between brackets becomes one symbol.** -/
theorem reduceStatement_content {args : List Argument} (h : isShort args = false) :
    ∃ x, content args = [x] ∧
      (reduceStatement .statement (separated (args.map compact))).done = true ∧
      (reduceStatement .statement (separated (args.map compact))).final = [x] ∧
      (reduceStatement .statement (separated (args.map compact))).grammar = .statement := by
  have hheads : Grammar.statement.Steps ([] ++ ((separated (args.map compact)).reverse ++ []))
      ([] ++ ((heads args).reverse ++ [])) :=
    steps_heads args (List.nil_subset _) (List.nil_subset _)
  simp only [List.nil_append, List.append_nil] at hheads
  rcases args with _ | ⟨a, _ | ⟨b, args⟩⟩
  · cases h
  · cases a with
    | name | value => cases h
    | call f args =>
      exact ⟨.call, rfl, reduceStatement_of_steps hheads (by simp [separated, compact])⟩
  · obtain ⟨x, hx, below, hbelow, hlen, hlisted⟩ := exists_listed a (b :: args)
    obtain ⟨y, below, rfl⟩ := List.exists_cons_of_length_eq_add_one hlen
    rw [hlisted] at hheads
    refine ⟨.argument, rfl, reduceStatement_of_steps (hheads.trans (steps_join hx hbelow)) ?_⟩
    have hpos : 0 < a.compact.length := by cases a <;> simp [compact]
    simp only [List.map_cons, separated, List.length_append, List.length_cons]
    omega

/-- A call in which the brackets have closed becomes one symbol. -/
theorem reduceStatement_compact (f : Callee) (args : List Argument) :
    (reduceStatement .statement (call f args).compact).done = true ∧
      (reduceStatement .statement (call f args).compact).final = [.call] ∧
      (reduceStatement .statement (call f args).compact).grammar = .statement := by
  have hlong : isShort [call f args] = false := rfl
  obtain ⟨x, hx, h⟩ := reduceStatement_content hlong
  cases hx
  exact h

end Argument

/-! ### What the bench passes -/

namespace Span

variable {α : Type}

theorem between_append (u m v : List α) :
    between u.length (u ++ m).length (u ++ m ++ v) = m := by
  rw [between, place_ofNat (by simp), place_ofNat (by simp)]
  simp

theorem cut_set_append {m : List α} (hm : m ≠ []) (u v : List α) (x : α) :
    cut (u.length + 1) (u ++ m).length (set u.length x (u ++ m ++ v)) = u ++ x :: v := by
  have hne : between (u.length : Int) (u ++ m).length (u ++ m ++ v) ≠ [] := by
    rwa [between_append]
  obtain ⟨u', v', hsplit, hlen, hcut⟩ := cut_set (by omega) hne x
  rw [between_append] at hsplit
  obtain ⟨hum, rfl⟩ := List.append_inj hsplit (by simp at hlen ⊢; omega)
  obtain ⟨rfl, -⟩ := List.append_inj' hum rfl
  exact hcut

end Span

namespace Bench

/-- **A part that is reduced to one symbol** is replaced by it. -/
theorem reducePart_of_part {b : Bench} {u m v : List Symbol} {x : Symbol}
    (htok : b.tokens = u ++ m ++ v) (hstart : b.openings.headD 0 = u.length)
    (hbound : b.bound = (u ++ m).length) (hdone : (reduceStatement b.grammar m).done = true)
    (hfinal : (reduceStatement b.grammar m).final = [x]) :
    ∃ b' : Bench, b.reducePart = .ok () b' ∧ b'.tokens = u ++ x :: v ∧
      b'.place = b.place - (m.length - 1 : Nat) ∧ b'.openings = b.openings.tail ∧
      b'.grammar = (reduceStatement b.grammar m).grammar := by
  have hpart : Span.between (b.openings.headD 0) b.bound b.tokens = m := by
    rw [htok, hstart, hbound, Span.between_append]
  have hcut : Span.cut (b.openings.headD 0 + 1) b.bound
      (Span.set (b.openings.headD 0) x b.tokens) = u ++ x :: v := by
    rw [htok, hstart, hbound, Span.cut_set_append (ne_nil_of_done hdone)]
  have hlen : (Span.between (b.openings.headD 0 + 1) b.bound b.tokens).length = m.length - 1 := by
    rw [Span.length_between_succ (by omega), hpart]
  rw [bound] at hpart hcut hlen
  unfold reducePart
  simp only [hpart, hdone, hfinal, hcut, hlen]
  exact ⟨_, rfl, rfl, rfl, rfl, rfl⟩

/-- The bench is at the place between `u` and `v`, where the openings `ks` are remembered, and the
statement grammar is in use. -/
structure Stands (b : Bench) (u v : List Symbol) (ks : List Int) : Prop where
  tokens : b.tokens = u ++ v
  place : b.place = u.length
  openings : b.openings = ks
  grammar : b.grammar = .statement

/-- The symbols `w` have become `w'` when the bench has passed them, wherever they stand; what is
remembered there stays as it was. -/
def ScansTo (w w' : List Symbol) : Prop :=
  ∀ b u v ks, Stands b u (w ++ v) ks → ∃ b', Stands b' (u ++ w') v ks ∧ b.scan = b'.scan

section ScansTo

variable {b : Bench} {u v w w' : List Symbol} {ks : List Int} {t x y z : Symbol}

theorem scansTo_nil : ScansTo [] [] := fun b u v ks h => ⟨b, by simpa using h, rfl⟩

theorem ScansTo.append {w₁ w₁' w₂ w₂' : List Symbol} (h₁ : ScansTo w₁ w₁') (h₂ : ScansTo w₂ w₂') :
    ScansTo (w₁ ++ w₂) (w₁' ++ w₂') := by
  intro b u v ks hb
  rw [List.append_assoc] at hb
  obtain ⟨b₁, hb₁, hscan₁⟩ := h₁ b u _ ks hb
  obtain ⟨b₂, hb₂, hscan₂⟩ := h₂ b₁ _ v ks hb₁
  rw [List.append_assoc] at hb₂
  exact ⟨b₂, hb₂, hscan₁.trans hscan₂⟩

/-- The symbols ahead, as the bench looks at them. -/
theorem Stands.get?_ahead (h : b.Stands u v ks) (k : Nat) :
    Span.get? (b.place + k) b.tokens = v[k]? := by
  rw [h.tokens, Span.get?_ahead k (by rw [h.place])]

theorem Stands.place_lt (h : b.Stands u (t :: v) ks) : b.place < b.tokens.length := by
  rw [h.tokens, h.place, List.length_append, List.length_cons]
  omega

/-- A look that moves the place over `m` passes one symbol more. -/
theorem Stands.pass {m : List Symbol} (h : b.Stands u (t :: m ++ v) ks)
    (hvisit : b.visit = .ok () { b with place := b.place + m.length }) :
    ∃ b' : Bench, b'.Stands (u ++ t :: m) v ks ∧ b.scan = b'.scan := by
  refine ⟨_, ?_, scan_of_ok h.place_lt hvisit⟩
  refine ⟨by simp [h.tokens], ?_, h.openings, h.grammar⟩
  simp only [h.place, List.length_append, List.length_cons]
  omega

theorem scansTo_plain (hopen : t.closer? = none) (hclose : t.isCloser = false) :
    ScansTo [t] [t] := by
  intro b u v ks h
  refine h.pass (m := []) ?_
  rw [visit_of_plain (get?_place h.tokens h.place) hopen hclose]
  simp

/-- Brackets with nothing in them are passed over. -/
theorem scansTo_empty : ScansTo [.openParen, .closeParen] [.openParen, .closeParen] := by
  intro b u v ks h
  refine h.pass (m := [.closeParen]) ?_
  have hnext : Span.get? (b.place + 1) b.tokens = some .closeParen := h.get?_ahead 1
  unfold visit
  simp [get?_place h.tokens h.place, Symbol.closer?, hnext]

/-- Brackets with one symbol in them are passed over. -/
theorem scansTo_single (hx : x ≠ .closeParen) :
    ScansTo [.openParen, x, .closeParen] [.openParen, x, .closeParen] := by
  intro b u v ks h
  refine h.pass (m := [x, .closeParen]) ?_
  have hnext : Span.get? (b.place + 1) b.tokens = some x := h.get?_ahead 1
  have hlast : Span.get? (b.place + 2) b.tokens = some .closeParen := h.get?_ahead 2
  unfold visit
  simp [get?_place h.tokens h.place, Symbol.closer?, hnext, hlast, hx]

/-- Any other bracket is remembered. -/
theorem Stands.remember (h : b.Stands u (.openParen :: y :: z :: v) ks) (hy : y ≠ .closeParen)
    (hz : z ≠ .closeParen) :
    ∃ b' : Bench, b'.Stands (u ++ [.openParen]) (y :: z :: v) ((u.length + 1 : Nat) :: ks) ∧
      b.scan = b'.scan := by
  have hnext : Span.get? (b.place + 1) b.tokens = some y := h.get?_ahead 1
  have hlast : Span.get? (b.place + 2) b.tokens = some z := h.get?_ahead 2
  have hvisit : b.visit = .ok () { b with openings := (b.place + 1) :: b.openings } := by
    unfold visit
    simp [get?_place h.tokens h.place, Symbol.closer?, hnext, hlast, hy, hz]
  refine ⟨_, ?_, scan_of_ok h.place_lt hvisit⟩
  exact ⟨by simp [h.tokens], by simp [h.place], by simp [h.place, h.openings], h.grammar⟩

/-- When the bracket closes, what has stood in it becomes one symbol. -/
theorem Stands.close {m : List Symbol}
    (h : b.Stands (u ++ m) (.closeParen :: v) (u.length :: ks)) (hu : u ≠ [])
    (hdone : (reduceStatement .statement m).done = true)
    (hfinal : (reduceStatement .statement m).final = [x])
    (hgrammar : (reduceStatement .statement m).grammar = .statement) :
    ∃ b' : Bench, b'.Stands (u ++ [x, .closeParen]) v ks ∧ b.scan = b'.scan := by
  have hpos := List.length_pos_iff.2 hu
  have hm := List.length_pos_iff.2 (ne_nil_of_done hdone)
  have hstart : b.openings.headD 0 = u.length := by rw [h.openings]; rfl
  rw [← h.grammar] at hdone hfinal
  obtain ⟨b', hpart, htok, hplace, hopen, hg⟩ :=
    reducePart_of_part (b := { b with closing := b.place }) h.tokens hstart
      (by rw [bound, hstart, if_neg (by omega)]; exact h.place) hdone hfinal
  have hvisit : b.visit = .ok () b' := by
    rw [visit_of_isCloser h.tokens h.place rfl rfl, hpart]
  refine ⟨_, ?_, scan_of_ok h.place_lt hvisit⟩
  refine ⟨by simp [htok], ?_, ?_, ?_⟩
  · simp only [hplace, h.place, List.length_append, List.length_cons, List.length_nil]
    omega
  · simp only [hopen, h.openings, List.tail_cons]
  · simp only [hg, h.grammar, hgrammar]

/-- **Brackets around more than one symbol** are left with one symbol in them. -/
theorem scansTo_bracket (h : ScansTo (y :: z :: w) w') (hy : y ≠ .closeParen)
    (hz : z ≠ .closeParen) (hdone : (reduceStatement .statement w').done = true)
    (hfinal : (reduceStatement .statement w').final = [x])
    (hgrammar : (reduceStatement .statement w').grammar = .statement) :
    ScansTo (.openParen :: y :: z :: w ++ [.closeParen]) [.openParen, x, .closeParen] := by
  intro b u v ks hb
  simp only [List.cons_append, List.append_assoc, List.nil_append] at hb
  obtain ⟨b₁, hb₁, hscan₁⟩ := hb.remember hy hz
  obtain ⟨b₂, hb₂, hscan₂⟩ := h b₁ _ (.closeParen :: v) _ hb₁
  have hlen : u.length + 1 = (u ++ [Symbol.openParen]).length := by simp
  rw [hlen] at hb₂
  obtain ⟨b₃, hb₃, hscan₃⟩ := hb₂.close (by simp) hdone hfinal hgrammar
  rw [List.append_assoc] at hb₃
  exact ⟨b₃, hb₃, hscan₁.trans (hscan₂.trans hscan₃)⟩

end ScansTo

end Bench

/-! ### Calls on the bench -/

namespace Argument

open Bench

theorem scansTo_separated {args : List Argument} (h : ∀ a ∈ args, ScansTo a.symbols a.compact) :
    ScansTo (separated (args.map symbols)) (separated (args.map compact)) := by
  rcases args with _ | ⟨a, _ | ⟨b, args⟩⟩
  · exact scansTo_nil
  · exact h a List.mem_cons_self
  · have hcomma : ScansTo [.comma] [.comma] := scansTo_plain rfl rfl
    have hrest := scansTo_separated fun c hc => h c (List.mem_cons_of_mem a hc)
    exact (h a List.mem_cons_self).append (hcomma.append hrest)

/-- What starts a bracket that is not passed over. -/
theorem exists_separated {args : List Argument} (h : isShort args = false) :
    ∃ y z w, separated (args.map symbols) = y :: z :: w ∧ y ≠ .closeParen ∧ z ≠ .closeParen := by
  have hcallee (f : Callee) : f.symbol ≠ .closeParen := by cases f <;> decide
  rcases args with _ | ⟨a, _ | ⟨b, args⟩⟩
  · cases h
  · cases a with
    | name | value => cases h
    | call f args =>
      rw [List.map_cons, symbols_call]
      exact ⟨_, _, _, rfl, hcallee f, by decide⟩
  · cases a with
    | name | value => exact ⟨_, _, _, rfl, by decide, by decide⟩
    | call f args =>
      rw [List.map_cons, List.map_cons, symbols_call]
      exact ⟨_, _, _, rfl, hcallee f, by decide⟩

theorem scansTo_brackets {args : List Argument} (h : ∀ a ∈ args, ScansTo a.symbols a.compact) :
    ScansTo (.openParen :: (separated (args.map symbols) ++ [.closeParen]))
      (.openParen :: (content args ++ [.closeParen])) := by
  cases hshort : isShort args with
  | false =>
    obtain ⟨y, z, w, hw, hy, hz⟩ := exists_separated hshort
    obtain ⟨x, hx, hdone, hfinal, hgrammar⟩ := reduceStatement_content hshort
    have hinner := scansTo_separated h
    rw [hw] at hinner ⊢
    rw [hx]
    exact scansTo_bracket hinner hy hz hdone hfinal hgrammar
  | true =>
    rcases eq_of_isShort hshort with rfl | rfl | rfl
    · exact scansTo_empty
    · exact scansTo_single (by decide)
    · exact scansTo_single (by decide)

/-- **When the bench has passed an argument**, the brackets in it have closed. -/
theorem scansTo_symbols (a : Argument) : ScansTo a.symbols a.compact := by
  induction a with
  | name => exact scansTo_plain rfl rfl
  | value => exact scansTo_plain rfl rfl
  | call f args ih =>
    have hcallee : ScansTo [f.symbol] [f.symbol] := by cases f <;> exact scansTo_plain rfl rfl
    rw [symbols_call]
    exact hcallee.append (scansTo_brackets ih)

end Argument

/-- **A call is reduced to one symbol** on a bench where nothing is remembered but the start of the
statement. -/
theorem Bench.check_call {b : Bench} (hopen : b.openings = [0]) (hgrammar : b.grammar = .statement)
    (f : Callee) (args : List Argument) :
    ∃ b', b.check (Argument.call f args).symbols = .ok (some .call) b' ∧ b'.openings = [] ∧
      b'.grammar = .statement := by
  have hlaid : (b.lay (Argument.call f args).symbols).Stands []
      ((Argument.call f args).symbols ++ []) [0] :=
    ⟨by simp [lay], rfl, hopen, hgrammar⟩
  obtain ⟨b₁, hb₁, hscan⟩ := Argument.scansTo_symbols _ _ _ _ _ hlaid
  rw [List.nil_append] at hb₁
  have hend : b₁.scan = .ok () b₁ := scan_of_end (by simp [hb₁.place, hb₁.tokens])
  -- the whole statement is now a call with at most one symbol between its brackets
  obtain ⟨hdone, hfinal, hg⟩ := Argument.reduceStatement_compact f args
  rw [← hb₁.grammar] at hdone hfinal
  have hstart : b₁.openings.headD 0 = 0 := by rw [hb₁.openings]; rfl
  obtain ⟨b₂, hpart, htok, -, hopen₂, hgrammar₂⟩ := reducePart_of_part (u := []) (v := [])
    (by simpa using hb₁.tokens) hstart (by rw [bound, if_pos hstart, hb₁.tokens]; simp) hdone hfinal
  refine ⟨b₂, ?_, by rw [hopen₂, hb₁.openings]; rfl, by rw [hgrammar₂, hb₁.grammar, hg]⟩
  rw [hend] at hscan
  have hne : (Argument.call f args).symbols ≠ [] := by simp [Argument.symbols_call]
  rcases check_cases (b := b) hne with
    ⟨_, _, h, -⟩ | ⟨b₃, h, ⟨_, _, h', -⟩ | ⟨b₄, h', hcheck⟩⟩ <;> rw [hscan] at h <;> cases h <;>
    rw [hpart] at h' <;> cases h'
  rw [hcheck, htok]
  rfl

namespace Parsing

/-- **Nested calls are accepted.** On a parsing that was not used before, the check of a call
returns, whatever its arguments, their number and the depth of their nesting. It adds one call to
the program; the statement grammar is still in use, and no opening is remembered. -/
theorem checkStatement_call (f : Callee) (args : List Argument) :
    ∃ s : Parsing, checkStatement (Argument.call f args).symbols {} = .ok () s ∧
      s.program = [.call] ∧ s.bench.grammar = .statement ∧ s.bench.openings = [] := by
  obtain ⟨b, hcheck, hopen, hgrammar⟩ :=
    Bench.check_call (b := ({} : Parsing).bench) rfl rfl f args
  unfold checkStatement
  simp only [hcheck]
  exact ⟨_, rfl, rfl, hgrammar, hopen⟩

end Parsing

end BrightLint
