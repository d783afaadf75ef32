import BrightLint.Proofs.Remarks

/-!
The outline of a reading: its tokens, its problems, its open brackets and functions, and the place
at which the current statement started. This is all that the parsing of a text depends on.

The style checks leave the outline alone, and a fault of theirs says nothing about the code. So each
lexeme that is read without a fault changes the outline in one way only, which does not depend on
the text around it, nor on the settings: except that a comma before a closing bracket stays, and the
bracket open, if the settings have an entry for such commas that lacks a part.

* `Outline`, `Reading.outline`: the outline of a reading
* `Outline.advance`, `Outline.next`: what a lexeme does to an outline
* `Lint.Keeps`: a step that keeps the outline, whatever its outcome
* `Lint.Steps`: a step that changes the outline in a given way
* `Reading.steps_advance`: reading a lexeme is such a step
* `Reading.steps_readLexeme`: so it is with the statement that the lexeme may end
-/

namespace BrightLint

/-! ### Outlines -/

/-- What the parsing of a text depends on. -/
structure Outline where
  tokens : List Token
  statementStart : Nat
  problems : List Problem
  line : Nat
  statementEnded : Bool
  openCurly : Int
  openSquare : Int
  openFunction : Int
  inObject : Int
  topic : Option Topic

/-- The outline of a reading. -/
def Reading.outline (r : Reading) : Outline where
  tokens := r.tokens
  statementStart := r.statementStart
  problems := r.problems
  line := r.line
  statementEnded := r.statementEnded
  openCurly := r.openCurly
  openSquare := r.openSquare
  openFunction := r.openFunction
  inObject := r.inObject
  topic := r.topic

/-- The part that a lexeme plays in a reading. -/
inductive Lexeme.Role where
  | lineEnd
  | directive (command : String)
  | word

/-- The part that a lexeme plays. -/
def Lexeme.role (x : Lexeme) : Role :=
  match x.kind, x.parts with
  | .newLine, _ => .lineEnd
  | .directive, .directive command _ => .directive command
  | _, _ => .word

theorem Lexeme.kind_of_lineEnd (x : Lexeme) (h : x.role = .lineEnd) : x.kind = .newLine := by
  unfold role at h
  split at h
  · assumption
  · cases h
  · cases h

theorem Lexeme.kind_of_directive (x : Lexeme) {command : String} (h : x.role = .directive command) :
    x.kind = .directive := by
  unfold role at h
  split at h
  · cases h
  · assumption
  · cases h

namespace Outline

/-- Whether a bracket or a function is open. -/
def isInside (o : Outline) : Bool := o.openCurly != 0 || o.openSquare != 0 || o.openFunction != 0

/-- Whether the end of a line would stand for a comma. -/
def wantsComma (o : Outline) : Bool :=
  (o.openCurly != 0 || o.openSquare != 0) && o.inObject == 0 &&
    o.tokens.head?.any fun t => t.kind != .openCurly && t.kind != .openSquare && t.symbol != .comma

/-- Whether the end of a line looks for a token where there is none. -/
def missesToken (o : Outline) : Bool :=
  (o.openCurly != 0 || o.openSquare != 0) && o.inObject == 0 && o.tokens.isEmpty

/-- Adds a token. -/
def push (t : Token) (o : Outline) : Outline := { o with tokens := t :: o.tokens }

/-- Adds the comma that the end of a line stands for. -/
def addComma (o : Outline) : Outline := if o.wantsComma then o.push (.addedComma o.line) else o

/-- The end of a line. -/
def endLine (o : Outline) : Outline :=
  let o := { o with statementEnded := true }.addComma
  { o with line := o.line + 1 }

/-- Counts the functions that open and close inside an object. -/
def countFunction (k : Kind) (o : Outline) : Outline :=
  if o.openCurly = 0 then o
  else match k with
    | .functionWord => { o with inObject := o.inObject + 1 }
    | .endFunctionWord => { o with inObject := o.inObject - 1 }
    | _ => o

/-- Adds the token of a lexeme, if it has one. -/
def addToken (x : Lexeme) (o : Outline) : Outline :=
  match x.token? with
  | some t => o.push { t with line := some o.line }
  | none => o

/-- Whether the token before the latest is a comma. -/
def endsInComma (o : Outline) : Bool := o.tokens.tail.head?.any (·.symbol == .comma)

/-- Drops the token before the latest, if it is a comma. -/
def dropComma (o : Outline) : Outline :=
  if o.endsInComma then { o with tokens := o.tokens.take 1 ++ o.tokens.drop 2 } else o

/-- A bracket is closed by `g`, after a comma before it was dropped. If `lax`, the comma stays, and
then nothing is closed. -/
def close (lax : Bool) (g : Outline → Outline) (o : Outline) : Outline :=
  if lax && o.endsInComma then o else g o.dropComma

/-- What a boundary does. -/
def applyBoundary (lax : Bool) : Boundary → Outline → Outline
  | .statementEnd => fun o => { o with statementEnded := true }
  | .openCurly => fun o => { o with openCurly := o.openCurly + 1 }
  | .closeCurly => close lax fun o => { o with openCurly := o.openCurly - 1 }
  | .openSquare => fun o => { o with openSquare := o.openSquare + 1 }
  | .closeSquare => close lax fun o => { o with openSquare := o.openSquare - 1 }
  | .openFunction => fun o => { o with openFunction := o.openFunction + 1 }
  | .closeFunction => fun o => { o with openFunction := o.openFunction - 1 }

/-- A statement does not end while something is open. -/
def settle (o : Outline) : Outline := if o.isInside then { o with statementEnded := false } else o

/-- What a lexeme means for brackets and statements. -/
def bound (lax : Bool) (o : Outline) : Outline :=
  match o.topic.bind Topic.boundary? with
  | none => o.settle
  | some b => (applyBoundary lax b o).settle

/-- Turns to a topic. -/
def turnTo (t : Topic) (o : Outline) : Outline := { o with topic := some t }

/-- What a lexeme does, apart from its meaning for brackets and statements. -/
def read (x : Lexeme) (o : Outline) : Outline :=
  match x.role with
  | .lineEnd => (o.turnTo (.kind x.kind)).endLine
  | .directive command => o.turnTo (.directive command)
  | .word => ((o.turnTo (.kind x.kind)).countFunction x.kind).addToken x

/-- What a lexeme does. -/
def advance (lax : Bool) (x : Lexeme) (o : Outline) : Outline :=
  if x.kind = .blank then o else (o.read x).bound lax

/-- Whether a lexeme ends a statement. -/
def ends (lax : Bool) (x : Lexeme) (o : Outline) : Bool :=
  x.kind != .blank && (o.advance lax x).statementEnded

/-- Lets the next statement begin. -/
def beginStatement (o : Outline) : Outline :=
  { o with statementEnded := false, statementStart := o.tokens.length }

/-- What a lexeme does, with the statement that it may end. -/
def next (lax : Bool) (x : Lexeme) (o : Outline) : Outline :=
  if o.ends lax x then (o.advance lax x).beginStatement else o.advance lax x

end Outline

theorem Reading.outline_tokens (r : Reading) : r.outline.tokens = r.tokens := rfl

theorem Reading.outline_statementStart (r : Reading) :
    r.outline.statementStart = r.statementStart := rfl

/-- Whether a complaint about a comma before a closing bracket fails for want of a setting. -/
def Profile.isLax (p : Profile) : Bool :=
  match Check.findTrailingComma p.settings with
  | .error .missingKey => true
  | _ => false

/-! ### Steps and the outline -/

namespace Lint

variable {α β : Type}

/-- An outcome with a given outline; a fault says nothing about the code. -/
def Leaves (o : Outline) : EStateM.Result Fault Reading α → Prop
  | .ok _ r => r.outline = o
  | .error f r => f.isVerdict = false ∧ r.outline = o

/-- The same, but after a fault the outline may be any. -/
def Yields (o : Outline) : EStateM.Result Fault Reading α → Prop
  | .ok _ r => r.outline = o
  | .error f _ => f.isVerdict = false

/-- A step that keeps the outline, whatever its outcome. -/
def Keeps (x : Lint α) : Prop := ∀ r : Reading, Leaves r.outline (x r)

/-- A step that changes the outline by `g`, if it ends well. -/
def Steps (x : Lint α) (g : Outline → Outline) : Prop := ∀ r : Reading, Yields (g r.outline) (x r)

theorem Keeps.bind {x : Lint α} {f : α → Lint β} (hx : Keeps x) (hf : ∀ a, Keeps (f a)) :
    Keeps (x >>= f) := by
  intro r
  have hr := hx r
  cases h : x r with
  | ok a r' =>
    rw [h] at hr
    rw [bind_of_ok h, ← show r'.outline = r.outline from hr]
    exact hf a r'
  | error e r' =>
    rw [h] at hr
    rw [bind_of_error h]
    exact hr

theorem Steps.bind {x : Lint α} {f : α → Lint β} {g h : Outline → Outline} (hx : Steps x g)
    (hf : ∀ a, Steps (f a) h) : Steps (x >>= f) (h ∘ g) := by
  intro r
  have hr := hx r
  cases he : x r with
  | ok a r' =>
    rw [he] at hr
    rw [bind_of_ok he, Function.comp_apply, ← show r'.outline = g r.outline from hr]
    exact hf a r'
  | error e r' =>
    rw [he] at hr
    rw [bind_of_error he]
    exact hr

theorem Keeps.steps {x : Lint α} (hx : Keeps x) : Steps x id := by
  intro r
  have hr := hx r
  cases h : x r with
  | ok a r' =>
    rw [h] at hr
    exact hr
  | error e r' =>
    rw [h] at hr
    exact hr.1

theorem keeps_pure (a : α) : Keeps (pure a : Lint α) := fun _ => rfl

theorem keeps_get : Keeps (get : Lint Reading) := fun _ => rfl

theorem keeps_modify {f : Reading → Reading} (hf : ∀ r : Reading, (f r).outline = r.outline) :
    Keeps (modify f : Lint Unit) := hf

theorem steps_modify {f : Reading → Reading} {g : Outline → Outline}
    (hf : ∀ r : Reading, (f r).outline = g r.outline) : Steps (modify f : Lint Unit) g := hf

/-- Remarks leave the outline alone. -/
theorem keeps_make {vs : List (Except Fault Remark)} (h : ∀ v ∈ vs, Neutral v) :
    Keeps (make vs) := by
  intro r
  induction vs generalizing r with
  | nil => rfl
  | cons v vs ih =>
    obtain ⟨hv, hvs⟩ := List.forall_mem_cons.1 h
    cases v with
    | error f => exact ⟨hv f rfl, rfl⟩
    | ok m => exact ih hvs (r.note m)

theorem Keeps.passMissing {x : Lint Unit} (hx : Keeps x) : Keeps (passMissing x) := by
  intro r
  have hr := hx r
  rcases passMissing_cases x r with h | ⟨r', h, hpass⟩
  · exact h ▸ hr
  · rw [h] at hr
    exact hpass ▸ hr.2

end Lint

namespace Reading

open Lint Check

/-! ### Style checks -/

theorem keeps_inspect (p : Profile) (t : Topic) (text : List Char) : Keeps (inspect p t text) := by
  intro r
  rw [inspect_eq]
  exact keeps_make (p.neutral_remarks.topic t text (fun _ => (neutral_skippedLine _ _).map _)
    fun _ => (neutral_skipsFile _).map _) r

theorem outline_counted (r : Reading) : r.counted.outline = r.outline := by
  rw [counted_eq]
  rfl

theorem neutral_lineEndRemarks (p : Profile) (r : Reading) :
    ∀ v ∈ r.lineEndRemarks p, Neutral v := by
  refine List.forall_mem_append.2 ⟨p.neutral_remarks.line _ fun f hf => ?_, ?_⟩
  · exact neutral_error (Layout.neutral_lastLine _ f hf)
  · exact List.forall_mem_singleton.2 ((neutral_indentation _ _ _ _).map _)

theorem keeps_checkLine (p : Profile) : Keeps (checkLine p) := by
  intro r
  rw [checkLine_eq, ← outline_counted]
  split
  · exact keeps_make (neutral_lineEndRemarks p r.counted) r.counted
  · exact (outline_counted r).symm

/-! ### The end of a line -/

/-- All that the end of a line can do to the tokens. -/
theorem addComma_eq (p : Profile) (r : Reading) :
    addComma p r =
      if r.outline.missesToken then .error .badIndex r
      else if r.outline.wantsComma then
        make [(findMissingComma p.settings).map .ofComplaint] (r.push (.addedComma r.line))
      else .ok () r := by
  have hmisses : r.outline.missesToken =
      ((r.openCurly != 0 || r.openSquare != 0) && r.inObject == 0 && r.tokens.isEmpty) := rfl
  have hwants : r.outline.wantsComma = ((r.openCurly != 0 || r.openSquare != 0) && r.inObject == 0 &&
      r.tokens.head?.any fun t =>
        t.kind != .openCurly && t.kind != .openSquare && t.symbol != .comma) := rfl
  rw [addComma, get_bind, hmisses, hwants]
  by_cases hopen : ((r.openCurly != 0 || r.openSquare != 0) && r.inObject == 0) = true
  · rw [if_pos hopen, hopen, Bool.true_and, Bool.true_and]
    cases r.tokens with
    | nil => rfl
    | cons t rest =>
      simp only [List.head?_cons, Option.any_some, List.isEmpty_cons, Bool.false_eq_true, if_false]
      by_cases ht : (t.kind != .openCurly && t.kind != .openSquare && t.symbol != .comma) = true
      · rw [if_pos ht, ← report_eq]
        exact (if_pos ht).symm
      · rw [if_neg ht]
        exact (if_neg ht).symm
  · rw [if_neg hopen, Bool.eq_false_iff.2 hopen]
    rfl

theorem steps_addComma (p : Profile) : Steps (addComma p) Outline.addComma := by
  intro r
  rw [addComma_eq]
  by_cases hmisses : r.outline.missesToken = true
  · rw [if_pos hmisses]
    exact rfl
  · rw [if_neg hmisses, Outline.addComma]
    split
    · exact (keeps_make (List.forall_mem_singleton.2 p.neutral_remarks.missingComma)).steps
        (r.push (.addedComma r.line))
    · exact rfl

theorem steps_endLine (p : Profile) : Steps (endLine p) Outline.endLine := by
  have hmark : Steps (modify fun r => { r with statementEnded := true })
      fun o => { o with statementEnded := true } := steps_modify fun _ => rfl
  have hcount : Steps (modify fun r => { r with line := r.line + 1, lineLength := 0 })
      fun o => { o with line := o.line + 1 } := steps_modify fun _ => rfl
  exact hmark.bind fun _ => (keeps_checkLine p).steps.bind fun _ =>
    (steps_addComma p).bind fun _ => hcount

/-! ### Brackets and statements -/

/-- A reading without the comma before its latest token, if there is one. -/
def withoutComma (r : Reading) : Reading := { r with tokens := r.outline.dropComma.tokens }

theorem outline_withoutComma (r : Reading) : r.withoutComma.outline = r.outline.dropComma := by
  unfold withoutComma Outline.dropComma
  split <;> rfl

end Reading

/-- Whether a bracket is closed. -/
def Boundary.isClosing : Boundary → Bool
  | .closeCurly | .closeSquare => true
  | _ => false

/-- If `lax`, a bracket that would drop a comma does nothing. -/
theorem Outline.applyBoundary_lax (lax : Bool) (b : Boundary) (o : Outline) :
    applyBoundary lax b o =
      if lax && (b.isClosing && o.endsInComma) then o else applyBoundary false b o := by
  cases b with
  | closeCurly => rfl
  | closeSquare => rfl
  | _ => cases lax <;> rfl

/-- What a boundary writes into a reading. -/
def Boundary.write : Boundary → Reading → Reading
  | .statementEnd, r => { r with statementEnded := true }
  | .openCurly, r => { r with openCurly := r.openCurly + 1 }
  | .closeCurly, r => { r.withoutComma with openCurly := r.openCurly - 1 }
  | .openSquare, r => { r with openSquare := r.openSquare + 1 }
  | .closeSquare, r => { r.withoutComma with openSquare := r.openSquare - 1 }
  | .openFunction, r => { r with openFunction := r.openFunction + 1 }
  | .closeFunction, r => { r with openFunction := r.openFunction - 1 }

/-- What is to be said of a comma that a boundary drops. -/
def Boundary.remarks (p : Profile) (b : Boundary) (o : Outline) : List (Except Fault Remark) :=
  if b.isClosing && o.endsInComma then [(Check.findTrailingComma p.settings).map .ofComplaint]
  else []

theorem Profile.AllRemarks.boundary {p : Profile} {Q : Except Fault Remark → Prop}
    (h : p.AllRemarks Q) (b : Boundary) (o : Outline) : ∀ v ∈ b.remarks p o, Q v := by
  unfold Boundary.remarks
  split
  · exact List.forall_mem_singleton.2 h.trailingComma
  · exact List.forall_mem_nil _

namespace Reading

open Lint Check

theorem withoutComma_of_not {r : Reading} (h : r.outline.endsInComma = false) :
    r.withoutComma = r := by
  unfold withoutComma Outline.dropComma
  rw [h]
  rfl

/-- All that a closing bracket can do to the tokens. -/
theorem dropComma_eq (p : Profile) (r : Reading) :
    dropComma p r =
      if r.tokens.length < 2 then .error .badIndex r
      else (do
        make (if r.outline.endsInComma then
          [(findTrailingComma p.settings).map .ofComplaint] else [])
        modify withoutComma : Lint Unit) r := by
  rw [dropComma, get_bind]
  rcases htok : r.tokens with _ | ⟨closing, _ | ⟨t, rest⟩⟩
  · rfl
  · rfl
  · have hlen : ¬ (closing :: t :: rest).length < 2 := by simp
    have hends : r.outline.endsInComma = (t.symbol == .comma) := by
      simp [Outline.endsInComma, outline_tokens, htok]
    simp only [if_neg hlen, hends, beq_iff_eq]
    by_cases ht : t.symbol = .comma
    · have hdrop : r.outline.dropComma.tokens = closing :: rest := by
        simp [Outline.dropComma, hends, outline_tokens, htok, ht]
      rw [if_pos ht, if_pos ht, report_eq]
      cases findTrailingComma p.settings with
      | error f => rfl
      | ok c =>
        change EStateM.Result.ok () { r.note (.ofComplaint c) with tokens := closing :: rest } = _
        rw [← hdrop]
        rfl
    · rw [if_neg ht, if_neg ht]
      refine congrArg (EStateM.Result.ok ()) (withoutComma_of_not ?_).symm
      rw [hends, beq_eq_false_iff_ne]
      exact ht

theorem close_eq (p : Profile) (f : Reading → Reading) (r : Reading) :
    (do dropComma p; modify f : Lint Unit) r =
      if r.tokens.length < 2 then .error .badIndex r
      else (do
        make (if r.outline.endsInComma then
          [(findTrailingComma p.settings).map .ofComplaint] else [])
        modify fun r => f r.withoutComma : Lint Unit) r := by
  have hdrop := dropComma_eq p r
  by_cases hlen : r.tokens.length < 2
  · rw [if_pos hlen] at hdrop ⊢
    exact bind_of_error hdrop
  · rw [if_neg hlen] at hdrop ⊢
    cases hmake : make (if r.outline.endsInComma then
        [(findTrailingComma p.settings).map .ofComplaint] else []) r with
    | ok a r' =>
      rw [bind_of_ok hmake] at hdrop ⊢
      exact bind_of_ok hdrop
    | error e r' =>
      rw [bind_of_error hmake] at hdrop ⊢
      exact bind_of_error hdrop

/-- **What a boundary does**: a closing bracket needs a token before it, which may be a comma. -/
theorem applyBoundary_eq (p : Profile) (b : Boundary) (r : Reading) :
    applyBoundary p b r =
      if b.isClosing && decide (r.tokens.length < 2) then .error .badIndex r
      else (do make (b.remarks p r.outline); modify b.write : Lint Unit) r := by
  cases b with
  | closeCurly =>
    simp only [applyBoundary, close_eq, Boundary.isClosing, Boundary.remarks, Bool.true_and,
      decide_eq_true_eq]
    rfl
  | closeSquare =>
    simp only [applyBoundary, close_eq, Boundary.isClosing, Boundary.remarks, Bool.true_and,
      decide_eq_true_eq]
    rfl
  | _ => rfl

theorem outline_write (b : Boundary) (r : Reading) :
    (b.write r).outline = r.outline.applyBoundary false b := by
  cases b with
  | closeCurly =>
    exact congrArg (fun o : Outline => { o with openCurly := o.openCurly - 1 })
      (outline_withoutComma r)
  | closeSquare =>
    exact congrArg (fun o : Outline => { o with openSquare := o.openSquare - 1 })
      (outline_withoutComma r)
  | _ => rfl

theorem steps_boundary (p : Profile) (b : Boundary) :
    Steps (passMissing (applyBoundary p b)) (Outline.applyBoundary p.isLax b) := by
  intro r
  have heq := applyBoundary_eq p b r
  rw [Outline.applyBoundary_lax]
  by_cases hlacks : (b.isClosing && decide (r.tokens.length < 2)) = true
  · rw [if_pos hlacks] at heq
    rw [passMissing_of_error heq (by decide)]
    exact rfl
  rw [if_neg hlacks, Boundary.remarks] at heq
  cases hdrops : b.isClosing && r.outline.endsInComma with
  | false =>
    rw [hdrops, if_neg Bool.false_ne_true] at heq
    rw [passMissing_of_ok heq, Bool.and_false, if_neg Bool.false_ne_true]
    exact outline_write b r
  | true =>
    rw [hdrops, if_pos rfl] at heq
    cases hv : findTrailingComma p.settings with
    | ok c =>
      have hlax : p.isLax = false := by rw [Profile.isLax, hv]
      rw [hv] at heq
      rw [passMissing_of_ok heq, hlax]
      exact outline_write b (r.note (.ofComplaint c))
    | error e =>
      rw [hv] at heq
      by_cases he : e = .missingKey
      · subst he
        have hlax : p.isLax = true := by rw [Profile.isLax, hv]
        rw [passMissing_of_missingKey heq, hlax]
        exact rfl
      · rw [passMissing_of_error heq he]
        exact neutral_trailingComma p.settings e hv

theorem outline_settle (r : Reading) :
    (if r.isInside then { r with statementEnded := false } else r).outline = r.outline.settle := by
  by_cases h : r.isInside = true
  · rw [if_pos h, Outline.settle, if_pos (show r.outline.isInside = true from h)]
    rfl
  · rw [if_neg h, Outline.settle, if_neg (show ¬ r.outline.isInside = true from h)]

theorem steps_checkBoundary (p : Profile) : Steps (checkBoundary p) (Outline.bound p.isLax) := by
  intro r
  have hsettle : Steps (modify fun r => if r.isInside then { r with statementEnded := false } else r)
      Outline.settle := steps_modify outline_settle
  rw [checkBoundary, get_bind, Outline.bound, show r.outline.topic = r.topic from rfl]
  cases r.topic.bind Topic.boundary? with
  | none => exact hsettle r
  | some b => exact (steps_boundary p b).bind (fun _ => hsettle) r

/-! ### A lexeme -/

theorem outline_countFunction (k : Kind) (r : Reading) :
    (countFunction k r).outline = r.outline.countFunction k := by
  unfold countFunction Outline.countFunction
  rw [show r.outline.openCurly = r.openCurly from rfl]
  split
  · rfl
  · cases k <;> rfl

/-- The checks that a word calls for. -/
def inspectWord (p : Profile) (x : Lexeme) : Lint Unit := do
  if (← get).isChecked then
    modify fun r => { r with isEmptyLine := false }
    passMissing (inspect p (.kind x.kind) x.text)

theorem keeps_inspectWord (p : Profile) (x : Lexeme) : Keeps (inspectWord p x) := by
  refine keeps_get.bind fun r => ?_
  split
  · exact Keeps.bind (keeps_modify fun _ => rfl) fun _ => (keeps_inspect p _ _).passMissing
  · exact keeps_pure ()

/-- Adds the token of a word. -/
def addToken (x : Lexeme) : Lint Unit :=
  match x.token? with
  | some t => modify fun r => r.push { t with line := some r.line }
  | none => pure ()

theorem steps_addToken (x : Lexeme) : Steps (addToken x) (Outline.addToken x) := by
  intro r
  unfold addToken Outline.addToken
  cases x.token? <;> exact rfl

/-- Turns to a lexeme. -/
def turnTo (x : Lexeme) (r : Reading) : Reading :=
  { r with topic := some (.kind x.kind), shift := r.shift + x.shift }

theorem applyStyle_lineEnd {x : Lexeme} (p : Profile) (h : x.role = .lineEnd) :
    applyStyle p x = do modify (turnTo x); endLine p; return false := by
  have hk := x.kind_of_lineEnd h
  unfold applyStyle
  split
  · rfl
  · next hd _ => cases hk.symm.trans hd
  · contradiction

theorem applyStyle_directive {x : Lexeme} {command : String} (p : Profile)
    (h : x.role = .directive command) :
    applyStyle p x = do
      modify (turnTo x)
      modify fun r => { r with topic := some (.directive command) }
      passMissing (inspect p (.directive command) x.text)
      return false := by
  unfold Lexeme.role at h
  split at h
  · cases h
  · next _ _ _ hk hp =>
    cases h
    unfold applyStyle
    rw [hk, hp]
    rfl
  · cases h

theorem applyStyle_plain {x : Lexeme} (p : Profile) (h : x.role = .word) :
    applyStyle p x = do
      modify (turnTo x)
      modify (countFunction x.kind)
      inspectWord p x
      return true := by
  unfold Lexeme.role at h
  unfold applyStyle
  split
  · next hk => simp [hk] at h
  · next hk hp => simp [hk, hp] at h
  · refine bind_congr fun _ => bind_congr fun _ => ?_
    unfold inspectWord
    simp only [bind_assoc]
    refine bind_congr fun r => ?_
    split <;> simp

/-- The first part of a step that reads a lexeme: all but its meaning for brackets and statements.
-/
def takeIn (p : Profile) (x : Lexeme) : Lint Unit := do
  modify (moveOver x)
  modify (turnTo x)
  match x.role with
  | .lineEnd => endLine p
  | .directive command => do
    modify fun r => { r with topic := some (.directive command) }
    passMissing (inspect p (.directive command) x.text)
  | .word => do
    modify (countFunction x.kind)
    inspectWord p x
    addToken x

/-- The last part of a step that reads a lexeme. -/
def endLexeme (p : Profile) : Lint Bool := do
  checkBoundary p
  return (← get).statementEnded

theorem advance_of_blank {x : Lexeme} (p : Profile) (hx : x.kind = .blank) :
    advance p x = do modify (moveOver x); return false := by
  unfold advance
  simp only [hx, if_true]

/-- A lexeme other than white space is taken in, and then it may open, close or end something. -/
theorem advance_of_ne {x : Lexeme} (p : Profile) (hx : x.kind ≠ .blank) :
    advance p x = (do takeIn p x; endLexeme p) := by
  unfold advance takeIn
  cases hrole : x.role with
  | lineEnd =>
    rw [applyStyle_lineEnd p hrole]
    simp [hx, endLexeme]
  | directive command =>
    rw [applyStyle_directive p hrole]
    simp [hx, endLexeme]
  | word =>
    rw [applyStyle_plain p hrole]
    simp only [hx, if_false, bind_assoc, pure_bind, if_true, addToken]
    cases x.token? <;> simp [endLexeme]

theorem steps_takeIn (p : Profile) (x : Lexeme) : Steps (takeIn p x) (Outline.read x) := by
  have hmove : Steps (modify (moveOver x)) id := steps_modify fun _ => rfl
  have hturn : Steps (modify (turnTo x)) (Outline.turnTo (.kind x.kind)) :=
    steps_modify fun _ => rfl
  unfold takeIn Outline.read
  cases x.role with
  | lineEnd => exact hmove.bind fun _ => hturn.bind fun _ => steps_endLine p
  | directive command =>
    have hname : Steps (modify fun r => { r with topic := some (.directive command) })
        (Outline.turnTo (.directive command)) := steps_modify fun _ => rfl
    exact hmove.bind fun _ => hturn.bind fun _ => hname.bind fun _ =>
      (keeps_inspect p (.directive command) x.text).passMissing.steps
  | word =>
    have hcount : Steps (modify (countFunction x.kind)) (Outline.countFunction x.kind) :=
      steps_modify (outline_countFunction x.kind)
    exact hmove.bind fun _ => hturn.bind fun _ => hcount.bind fun _ =>
      (keeps_inspectWord p x).steps.bind fun _ => steps_addToken x

theorem steps_endLexeme (p : Profile) : Steps (endLexeme p) (Outline.bound p.isLax) :=
  (steps_checkBoundary p).bind fun _ => keeps_get.steps.bind fun _ => (keeps_pure _).steps

/-- **Reading a lexeme** without a fault changes the outline in one way only. -/
theorem steps_advance (p : Profile) (x : Lexeme) :
    Steps (advance p x) (Outline.advance p.isLax x) := by
  by_cases hx : x.kind = .blank
  · intro r
    rw [Outline.advance, if_pos hx, advance_of_blank p hx]
    exact rfl
  · intro r
    rw [Outline.advance, if_neg hx, advance_of_ne p hx]
    exact (steps_takeIn p x).bind (fun _ => steps_endLexeme p) r

/-- The answer is whether the lexeme ended a statement. -/
theorem advance_ended {p : Profile} {x : Lexeme} {r r' : Reading} {b : Bool}
    (h : advance p x r = .ok b r') : b = (x.kind != .blank && r'.statementEnded) := by
  by_cases hx : x.kind = .blank
  · rw [advance_of_blank p hx] at h
    cases h
    rw [hx]
    rfl
  · rw [advance_of_ne p hx] at h
    obtain ⟨-, r₁, -, h⟩ := bind_ok h
    obtain ⟨-, r₂, -, h⟩ := bind_ok h
    cases h
    rw [bne_iff_ne.2 hx, Bool.true_and]

/-- What a lexeme that is read without a fault has done. -/
theorem advance_ok {p : Profile} {x : Lexeme} {r r' : Reading} {b : Bool}
    (h : advance p x r = .ok b r') :
    r'.outline = r.outline.advance p.isLax x ∧ b = r.outline.ends p.isLax x := by
  have hstep := steps_advance p x r
  rw [h] at hstep
  have hout : r'.outline = r.outline.advance p.isLax x := hstep
  refine ⟨hout, ?_⟩
  rw [advance_ended h, Outline.ends, ← hout]
  rfl

/-- **A lexeme** read without a fault changes the outline in one way only. -/
theorem steps_readLexeme (p : Profile) (x : Lexeme) :
    Steps (readLexeme p x) (Outline.next p.isLax x) := by
  intro r
  cases h : advance p x r with
  | error f r' =>
    have hstep := steps_advance p x r
    rw [h] at hstep
    rw [readLexeme, bind_of_error h]
    exact hstep
  | ok ended r' =>
    obtain ⟨hout, hended⟩ := advance_ok h
    rw [readLexeme, bind_of_ok h, Outline.next, ← hended, ← hout]
    cases ended <;> exact rfl

/-! ### The end of a text -/

/-- What follows the last lexeme keeps the outline, unless some text is left over. -/
theorem leaves_finish (p : Profile) (rest : List Char) (r : Reading) :
    Leaves (if rest.isEmpty then r else r.recordUnmatched).outline (finish p rest r) := by
  have hend : Keeps (do checkLine p; modify fun r => { r with statements := r.statements + 1 }) :=
    (keeps_checkLine p).bind fun _ => keeps_modify fun _ => rfl
  cases rest with
  | nil => exact hend r
  | cons c rest => exact hend r.recordUnmatched

end Reading

end BrightLint
