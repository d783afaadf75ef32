import BrightLint.Grammar.Reduction
import BrightLint.Fault
import BrightLint.Text.Span

/-!
The bench on which a statement is reduced. The brackets of a statement are looked for from left to
right; when one closes, what it encloses is reduced to one symbol, and in the end the whole is.

* `Bench`: the statement on the bench, and what is remembered of its brackets
* `Bench.reducePart`: reduces what stands between the latest opening and the closing
* `Bench.visit`: looks at one symbol
* `Bench.scan`: looks at one symbol after the other
* `Bench.check`: reduces a statement to one symbol

A part that is reduced makes the statement shorter and moves the place back by as much, so each
look brings the place nearer to the end (`visit_ok`).
-/

namespace BrightLint

/-- The bracket that closes what a symbol opens. -/
def Symbol.closer? : Symbol → Option Symbol
  | .openParen => some .closeParen
  | .openSquare => some .closeSquare
  | .openCurly => some .closeCurly
  | _ => none

def Symbol.isCloser : Symbol → Bool
  | .closeParen | .closeSquare | .closeCurly => true
  | _ => false

/-- The bench. -/
structure Bench where
  tokens : List Symbol := []
  place : Int := 0
  /-- Where the contents of the open brackets start, the latest first. -/
  openings : List Int := [0]
  /-- Where the latest bracket closed. -/
  closing : Int := 0
  grammar : GrammarName := .statement
  /-- The part last reduced, as far as it was reduced. While there is none, it is the program that
  lies on the bench. -/
  part : Option (List Symbol) := some []
  /-- The reductions of the current statement. -/
  steps : List (List Symbol) := []
deriving Repr

namespace Bench

/-- The outcome of a step on the bench. -/
abbrev Result (α : Type) := EStateM.Result Fault Bench α

/-- Reduces the part from the latest opening to the closing, or, where nothing is open, the whole
statement. -/
def reducePart (b : Bench) : Result Unit :=
  let start := b.openings.headD 0
  let closing := if start = 0 then (b.tokens.length : Int) else b.closing
  let r := reduceStatement b.grammar (Span.between start closing b.tokens)
  let b := { b with
    openings := b.openings.tail, closing := closing, grammar := r.grammar, part := some r.final,
    steps := b.steps ++ r.steps }
  match r.done, r.final with
  | true, x :: _ =>
    .ok () { b with
      place := b.place - (Span.between (start + 1) closing b.tokens).length
      tokens := Span.cut (start + 1) closing (Span.set start x b.tokens) }
  | _, _ => .error (.unparsed .statement) b

/-- Looks at the symbol at the place reached. A bracket that encloses at most one symbol is passed
over, any other that opens is remembered, and one that closes has its part reduced. -/
def visit (b : Bench) : Result Unit :=
  match Span.get? b.place b.tokens with
  | none => .error .badIndex b
  | some t =>
    match t.closer? with
    | some c =>
      match Span.get? (b.place + 1) b.tokens with
      | none => .error (.unparsed .statement) b
      | some u =>
        if u = c then .ok () { b with place := b.place + 1 }
        else match Span.get? (b.place + 2) b.tokens with
          | none => .error (.unparsed .statement) b
          | some v =>
            if v = c then .ok () { b with place := b.place + 2 }
            else .ok () { b with openings := (b.place + 1) :: b.openings }
    | none => if t.isCloser then reducePart { b with closing := b.place } else .ok () b

/-! ### Progress -/

/-- How much of the statement is still to be looked at. -/
def ahead (b : Bench) : Int := b.tokens.length - b.place

theorem length_between_set (lo hi i : Int) (x : Symbol) (xs : List Symbol) :
    (Span.between lo hi (Span.set i x xs)).length = (Span.between lo hi xs).length := by
  simp [Span.between, Span.length_set]

theorem reducePart_ok {b b' : Bench} (h : b.reducePart = .ok () b') : b'.ahead = b.ahead := by
  unfold reducePart at h
  simp only at h
  split at h
  · next x _ _ _ =>
    cases h
    simp only [ahead]
    have := Span.length_cut (b.openings.headD 0 + 1)
      (if b.openings.headD 0 = 0 then (b.tokens.length : Int) else b.closing)
      (Span.set (b.openings.headD 0) x b.tokens)
    rw [length_between_set, Span.length_set] at this
    omega
  · cases h

theorem visit_ok {b b' : Bench} (h : b.visit = .ok () b') : b'.ahead ≤ b.ahead := by
  unfold visit at h
  split at h
  · cases h
  · split at h
    · split at h
      · cases h
      · split at h
        · cases h; simp only [ahead]; omega
        · split at h
          · cases h
          · split at h <;> cases h <;> simp only [ahead] <;> omega
    · split at h
      · have := reducePart_ok h
        simp only [ahead] at this ⊢
        omega
      · cases h; exact Int.le_refl _

/-! ### Whole statements -/

/-- Looks at one symbol after the other, up to the end of the statement. -/
def scan (b : Bench) : Result Unit :=
  if _hp : b.place < b.tokens.length then
    match _hv : b.visit with
    | .error f b' => .error f b'
    | .ok () b' => scan { b' with place := b'.place + 1 }
  else .ok () b
termination_by b.ahead.toNat
decreasing_by
  have := visit_ok _hv
  simp only [ahead] at this ⊢
  omega

/-- Reduces a statement to one symbol. An empty statement has none. -/
def check (b : Bench) (types : List Symbol) : Result (Option Symbol) :=
  let b := { b with tokens := types, steps := [] }
  if types.isEmpty then .ok none b
  else match scan { b with place := 0 } with
    | .error f b' => .error f b'
    | .ok () b' => match b'.reducePart with
      | .error f b'' => .error f b''
      | .ok () b'' => .ok b''.tokens.head? b''

end Bench

end BrightLint
