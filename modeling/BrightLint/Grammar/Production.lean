import BrightLint.Symbol

/-!
Productions and how they apply to a statement. A statement is reduced from its end, so it is held
as a stack: its last symbol first.

* `Production.below?`: what lies below the right-hand side of a production on top of a stack
* `matchTop?`: the first of several productions that applies on top of a stack
* `Level.reduce?`: one reduction at the place nearest to the top
* `Grammar`: levels of productions, each production making a statement lighter
-/

namespace BrightLint

/-- A production: the symbols `rhs` of a statement, in reading order, make up a `result`. -/
structure Production where
  rhs : List Symbol
  result : Symbol
deriving DecidableEq, Repr

/-- What a list of symbols weighs. -/
def weightOf : List Symbol → Nat
  | [] => 0
  | t :: st => t.weight + weightOf st

/-- What follows given symbols at the head of a list. -/
def after? : List Symbol → List Symbol → Option (List Symbol)
  | [], st => some st
  | a :: as, b :: st => if a = b then after? as st else none
  | _ :: _, [] => none

namespace Production

/-- Whether a reduction by the production makes a statement lighter. -/
def isLowering (p : Production) : Bool := p.result.weight < weightOf p.rhs

/-- What lies below the right-hand side on a stack, if that lies on top. -/
def below? (p : Production) (stack : List Symbol) : Option (List Symbol) :=
  after? p.rhs.reverse stack

end Production

/-- The first production, in order, that applies on top of a stack, and what lies below it. -/
def matchTop? (ps : List Production) (stack : List Symbol) : Option (Production × List Symbol) :=
  ps.findSome? fun p => (p.below? stack).map (p, ·)

/-- The productions of one priority, filed under the symbol that a statement has to end with. -/
abbrev Level := List (Symbol × List Production)

namespace Level

/-- The productions filed under a symbol. -/
def filed (l : Level) (t : Symbol) : List Production := (l.lookup t).getD []

/-- One reduction at the place nearest to the top of a stack. -/
def reduce? (l : Level) : List Symbol → Option (List Symbol)
  | [] => none
  | t :: below =>
    match matchTop? (l.filed t) (t :: below) with
    | some (p, rest) => some (p.result :: rest)
    | none => (l.reduce? below).map (t :: ·)

/-- Whether every production of a level makes a statement lighter. -/
def isLowering (l : Level) : Bool := l.all fun (_, ps) => ps.all (·.isLowering)

end Level

/-- A grammar: its levels in the order of their priority. -/
structure Grammar where
  levels : List Level
  lowering : ∀ l ∈ levels, l.isLowering = true

/-- One reduction by a production of the first level that has one for the stack. -/
def Grammar.reduce? (g : Grammar) (stack : List Symbol) : Option (List Symbol) :=
  g.levels.findSome? (·.reduce? stack)

/-! ### Every reduction makes the stack lighter -/

@[simp]
theorem weightOf_nil : weightOf [] = 0 := rfl

@[simp]
theorem weightOf_cons (t : Symbol) (st : List Symbol) :
    weightOf (t :: st) = t.weight + weightOf st := rfl

@[simp]
theorem weightOf_append (a b : List Symbol) : weightOf (a ++ b) = weightOf a + weightOf b := by
  induction a with
  | nil => simp
  | cons t a ih => simp [ih]; omega

@[simp]
theorem weightOf_reverse (st : List Symbol) : weightOf st.reverse = weightOf st := by
  induction st with
  | nil => rfl
  | cons t st ih => simp [ih]; omega

theorem after?_eq_some_iff {as st rest : List Symbol} :
    after? as st = some rest ↔ st = as ++ rest := by
  induction as generalizing st with
  | nil => simp [after?]
  | cons a as ih =>
    cases st with
    | nil => simp [after?]
    | cons b st =>
      rw [after?]
      split
      · next h => simp [h, ih]
      · next h => simp [Ne.symm h]

theorem Production.below?_eq_some_iff {p : Production} {stack rest : List Symbol} :
    p.below? stack = some rest ↔ stack = p.rhs.reverse ++ rest := after?_eq_some_iff

theorem eq_append_of_matchTop? {ps : List Production} {stack : List Symbol} {p : Production}
    {rest : List Symbol} (h : matchTop? ps stack = some (p, rest)) :
    p ∈ ps ∧ stack = p.rhs.reverse ++ rest := by
  obtain ⟨q, hq, hm⟩ := List.exists_of_findSome?_eq_some h
  obtain ⟨r, hr, he⟩ := Option.map_eq_some_iff.1 hm
  cases he
  exact ⟨hq, Production.below?_eq_some_iff.1 hr⟩

namespace Level

theorem mem_of_filed {l : Level} {t : Symbol} {p : Production} (h : p ∈ l.filed t) :
    ∃ ps, (t, ps) ∈ l ∧ p ∈ ps := by
  unfold filed at h
  cases hl : l.lookup t with
  | none => simp [hl] at h
  | some ps =>
    obtain ⟨a, b, he, _⟩ := List.lookup_eq_some_iff.1 hl
    exact ⟨ps, by simp [he], by simpa [hl] using h⟩

theorem weightOf_reduce?_lt {l : Level} (hl : l.isLowering = true) {stack next : List Symbol}
    (h : l.reduce? stack = some next) : weightOf next < weightOf stack := by
  induction stack generalizing next with
  | nil => cases h
  | cons t below ih =>
    rw [reduce?] at h
    split at h
    · next p rest hp =>
      cases h
      obtain ⟨hmem, he⟩ := eq_append_of_matchTop? hp
      obtain ⟨ps, hps, hp⟩ := mem_of_filed hmem
      simp only [isLowering, List.all_eq_true] at hl
      have := hl _ hps p hp
      simp only [Production.isLowering, decide_eq_true_eq] at this
      simp only [he, weightOf_cons, weightOf_append, weightOf_reverse]
      omega
    · obtain ⟨u, hu, rfl⟩ := Option.map_eq_some_iff.1 h
      simp only [weightOf_cons]
      have := ih hu
      omega

end Level

theorem Grammar.weightOf_reduce?_lt {g : Grammar} {stack next : List Symbol}
    (h : g.reduce? stack = some next) : weightOf next < weightOf stack := by
  obtain ⟨l, hl, hr⟩ := List.exists_of_findSome?_eq_some h
  exact Level.weightOf_reduce?_lt (g.lowering l hl) hr

end BrightLint
