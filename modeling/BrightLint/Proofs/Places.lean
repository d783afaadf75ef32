import BrightLint.Grammar.Lookup
import BrightLint.Grammar.Reduction

/-!
A reduction place by place. `Level.reduce?` goes down a stack until a production applies; here the
places that it passes over are named by the number of symbols above them, which is how a look-up
(`Grammar.lookup`) names them.

* `Level.matchAt?`: the production that applies on top of a stack
* `Level.reduce?_of_skip`: places at which nothing applies can be passed over together
* `Grammar.reduce?_of_level`: the first level that applies is the one that is used
* `Grammar.lookup_ofNat`: what a look-up finds at a place of a statement
-/

namespace BrightLint

namespace Level

variable {l : Level}

/-- The production that a level has for the top of a stack, and what lies below it. -/
def matchAt? (l : Level) : List Symbol → Option (Production × List Symbol)
  | [] => none
  | t :: below => matchTop? (l.filed t) (t :: below)

theorem reduce?_cons_of_match {t : Symbol} {below rest : List Symbol} {p : Production}
    (h : l.matchAt? (t :: below) = some (p, rest)) :
    l.reduce? (t :: below) = some (p.result :: rest) := by
  rw [matchAt?] at h
  rw [reduce?, h]

theorem reduce?_cons_of_none {t : Symbol} {below : List Symbol}
    (h : l.matchAt? (t :: below) = none) :
    l.reduce? (t :: below) = (l.reduce? below).map (t :: ·) := by
  rw [matchAt?] at h
  rw [reduce?, h]

/-- **Places at which nothing applies are passed over.** -/
theorem reduce?_of_skip {i : Nat} {stack : List Symbol}
    (h : ∀ j < i, l.matchAt? (stack.drop j) = none) :
    l.reduce? stack = (l.reduce? (stack.drop i)).map (stack.take i ++ ·) := by
  induction i generalizing stack with
  | zero => simp
  | succ i ih =>
    cases stack with
    | nil => simp [reduce?]
    | cons t below =>
      have hrest : ∀ j < i, l.matchAt? (below.drop j) = none := fun j hj => h (j + 1) (by omega)
      rw [reduce?_cons_of_none (h 0 (by omega)), ih hrest]
      simp [Function.comp_def]

/-- The reduction at the first place at which something applies. -/
theorem reduce?_of_match {i : Nat} {stack rest : List Symbol} {p : Production}
    (h : ∀ j < i, l.matchAt? (stack.drop j) = none)
    (hm : l.matchAt? (stack.drop i) = some (p, rest)) :
    l.reduce? stack = some (stack.take i ++ p.result :: rest) := by
  rw [reduce?_of_skip h]
  cases hd : stack.drop i with
  | nil => simp [hd, matchAt?] at hm
  | cons t below =>
    rw [hd] at hm
    rw [reduce?_cons_of_match hm]
    rfl

theorem reduce?_eq_none_of_length {stack : List Symbol}
    (h : ∀ j < stack.length, l.matchAt? (stack.drop j) = none) : l.reduce? stack = none := by
  rw [reduce?_of_skip h, List.drop_length]
  rfl

theorem matchAt?_drop_of_reduce? {stack : List Symbol} (h : l.reduce? stack = none) (j : Nat) :
    l.matchAt? (stack.drop j) = none := by
  induction j generalizing stack with
  | zero =>
    cases stack with
    | nil => rfl
    | cons t below =>
      cases hm : l.matchAt? (t :: below) with
      | none => exact hm
      | some q => rw [reduce?_cons_of_match hm] at h; cases h
  | succ j ih =>
    cases stack with
    | nil => rfl
    | cons t below =>
      cases hm : l.matchAt? (t :: below) with
      | none =>
        rw [reduce?_cons_of_none hm, Option.map_eq_none_iff] at h
        exact ih h
      | some q => rw [reduce?_cons_of_match hm] at h; cases h

end Level

/-! ### The level that is used -/

namespace Grammar

variable {g : Grammar} {stack : List Symbol}

theorem reduce?_of_level {k : Nat} {l : Level} {next : List Symbol} (hl : g.levels[k]? = some l)
    (hbelow : ∀ j < k, ∀ m, g.levels[j]? = some m → m.reduce? stack = none)
    (h : l.reduce? stack = some next) : g.reduce? stack = some next := by
  obtain ⟨hk, rfl⟩ := List.getElem?_eq_some_iff.1 hl
  have hsplit : g.levels = g.levels.take k ++ g.levels[k] :: g.levels.drop (k + 1) := by simp
  have hnone : (g.levels.take k).findSome? (·.reduce? stack) = none := by
    rw [List.findSome?_eq_none_iff]
    intro m hm
    obtain ⟨j, hj, rfl⟩ := List.mem_take_iff_getElem.1 hm
    exact hbelow j (by omega) _ (List.getElem?_eq_getElem (by omega))
  rw [reduce?, hsplit, List.findSome?_append, hnone, Option.none_or, List.findSome?_cons, h]

theorem reduce?_eq_none_iff :
    g.reduce? stack = none ↔
      ∀ (j : Nat) (l : Level), g.levels[j]? = some l → l.reduce? stack = none := by
  rw [reduce?, List.findSome?_eq_none_iff]
  constructor
  · intro h j l hl
    exact h l (List.mem_of_getElem? hl)
  · intro h l hl
    obtain ⟨j, hj⟩ := List.mem_iff_getElem?.1 hl
    exact h j l hj

end Grammar

/-! ### Look-ups -/

/-- Splicing at a place replaces the right-hand side that ends there, and nothing else. -/
theorem reverse_spliceAt {i : Nat} {p : Production} {st rest : List Symbol}
    (h : st.reverse.drop i = p.rhs.reverse ++ rest) :
    (spliceAt i p st).reverse = st.reverse.take i ++ p.result :: rest := by
  have hlen : st.length - i = p.rhs.length + rest.length := by
    have := congrArg List.length h
    simpa using this
  have hrest : rest = (st.take (st.length - i - p.rhs.length)).reverse := by
    have hd := congrArg (List.drop p.rhs.length) h
    rw [List.drop_left' (by simp), List.drop_drop, List.drop_reverse] at hd
    rw [← hd]
    congr 2
    omega
  rw [spliceAt, List.reverse_append, List.reverse_cons, ← hrest, List.take_reverse]
  simp

/-- **What a look-up finds at a place** is what the level has for the stack from that place on. -/
theorem Grammar.lookup_ofNat {g : Grammar} {k i : Nat} {l : Level} {st : List Symbol}
    (hl : g.levels[k]? = some l) (hi : i < st.length) :
    ∃ r, g.lookup k st i = .ok r ∧
      r.found = (l.matchAt? (st.reverse.drop i)).map fun q => (q.1, spliceAt i q.1 st) := by
  have hi' : i < st.reverse.length := by simpa using hi
  have ht : st.reverse[i]? = some st.reverse[i] := List.getElem?_eq_getElem hi'
  have hd : st.reverse.drop i = st.reverse[i] :: st.reverse.drop (i + 1) :=
    List.drop_eq_getElem_cons hi'
  have hk : ((k : Int).toNat?.bind (g.levels[·]?)) = some l := by
    simpa [Int.toNat?] using hl
  refine ⟨l.lookupAt st.reverse[i] (findAt? i · st) (spliceAt i · st), ?_, ?_⟩
  · unfold lookup
    simp only [ht, hk]
  · simp only [Level.lookupAt, findAt?]
    rw [hd, Level.matchAt?, Option.map_map]
    rfl

end BrightLint
