import BrightLint.Proofs.StyleFaults

/-!
What the style checks do to a reading. A check makes a remark: it may complain, ask about words, set
the level of the lines, or say what is to be skipped. Whatever is checked, a lexeme or a line that
ends, comes to a list of remarks, which can be told from the settings and the state before; the
first of them that fails ends it. Nothing else of a reading is touched.

So what is to be known of the style checks need only be known of a list of remarks, and of the
remarks in it.

* `bind_of_ok` and so on: steps and their outcomes
* `Remark`, `Reading.note`: what a check adds to a reading
* `Lint.make`: makes a list of remarks
* `Topic.remarks`, `Reading.inspect_eq`: the remarks on a lexeme
* `lineRemarks`, `indentRemark`, `Reading.checkLine_eq`: the remarks on a line that ends
* `Profile.AllRemarks`: a property of whatever the checks have to say
-/

namespace BrightLint

/-! ### Steps and their outcomes -/

section Steps

variable {σ α β : Type}

theorem bind_of_ok {x : EStateM Fault σ α} {f : α → EStateM Fault σ β} {s s₁ : σ} {a : α}
    (h : x s = .ok a s₁) : (x >>= f) s = f a s₁ := by
  simp only [bind, EStateM.bind, h]

theorem bind_of_error {x : EStateM Fault σ α} {f : α → EStateM Fault σ β} {s s₁ : σ} {e : Fault}
    (h : x s = .error e s₁) : (x >>= f) s = .error e s₁ := by
  simp only [bind, EStateM.bind, h]

theorem bind_ok {x : EStateM Fault σ α} {f : α → EStateM Fault σ β} {s s' : σ} {b : β}
    (h : (x >>= f) s = .ok b s') : ∃ a s₁, x s = .ok a s₁ ∧ f a s₁ = .ok b s' := by
  cases hx : x s with
  | ok a s₁ => exact ⟨a, s₁, rfl, (bind_of_ok hx).symm.trans h⟩
  | error e s₁ =>
    rw [bind_of_error hx] at h
    cases h

theorem bind_error {x : EStateM Fault σ α} {f : α → EStateM Fault σ β} {s s' : σ} {e : Fault}
    (h : (x >>= f) s = .error e s') :
    x s = .error e s' ∨ ∃ a s₁, x s = .ok a s₁ ∧ f a s₁ = .error e s' := by
  cases hx : x s with
  | ok a s₁ => exact .inr ⟨a, s₁, rfl, (bind_of_ok hx).symm.trans h⟩
  | error e₁ s₁ =>
    rw [bind_of_error hx] at h
    cases h
    exact .inl rfl

theorem tryCatch_of_ok {x : EStateM Fault σ α} {handler : Fault → EStateM Fault σ α} {s s₁ : σ}
    {a : α} (h : x s = .ok a s₁) : tryCatch x handler s = .ok a s₁ := by
  change EStateM.tryCatch x handler s = _
  delta EStateM.tryCatch
  simp only [h]

theorem tryCatch_of_error {x : EStateM Fault σ α} {handler : Fault → EStateM Fault σ α} {s s₁ : σ}
    {e : Fault} (h : x s = .error e s₁) : tryCatch x handler s = handler e s₁ := by
  change EStateM.tryCatch x handler s = _
  delta EStateM.tryCatch
  simp only [h]
  rfl

theorem tryCatch_ok {x : EStateM Fault σ α} {handler : Fault → EStateM Fault σ α} {s s' : σ} {a : α}
    (h : tryCatch x handler s = .ok a s') :
    x s = .ok a s' ∨ ∃ e s₁, x s = .error e s₁ ∧ handler e s₁ = .ok a s' := by
  cases hx : x s with
  | ok b s₁ => exact .inl ((tryCatch_of_ok hx).symm.trans h)
  | error e s₁ => exact .inr ⟨e, s₁, rfl, (tryCatch_of_error hx).symm.trans h⟩

end Steps

namespace Lint

variable {α : Type} {r r' : Reading}

theorem get_bind (f : Reading → Lint α) (r : Reading) :
    ((get : Lint Reading) >>= f) r = f r r := rfl

theorem passMissing_of_ok {x : Lint Unit} (h : x r = .ok () r') : passMissing x r = .ok () r' :=
  tryCatch_of_ok h

theorem passMissing_of_missingKey {x : Lint Unit} (h : x r = .error .missingKey r') :
    passMissing x r = .ok () r' := tryCatch_of_error h

theorem passMissing_of_error {x : Lint Unit} {f : Fault} (h : x r = .error f r')
    (hf : f ≠ .missingKey) : passMissing x r = .error f r' := by
  refine (tryCatch_of_error h).trans ?_
  cases f with
  | missingKey => exact absurd rfl hf
  | _ => rfl

/-- A step that may lack a setting comes out as it does, or its lack is passed over. -/
theorem passMissing_cases (x : Lint Unit) (r : Reading) :
    passMissing x r = x r ∨ ∃ r', x r = .error .missingKey r' ∧ passMissing x r = .ok () r' := by
  cases h : x r with
  | ok a r' => exact .inl (passMissing_of_ok h)
  | error f r' =>
    by_cases hf : f = .missingKey
    · subst hf
      exact .inr ⟨r', rfl, passMissing_of_missingKey h⟩
    · exact .inl (passMissing_of_error h hf)

end Lint

/-! ### Places -/

/-- Where a reading stands in its text and on its line. -/
structure Place where
  text : List Char
  position : Int
  line : Nat
  lineLength : Nat

/-- Where a reading stands. -/
def Reading.place (r : Reading) : Place := ⟨r.text, r.position, r.line, r.lineLength⟩

namespace Place

/-- The line that ends here, if there is one. -/
def lastLine? (here : Place) : Except Fault (List Char) :=
  Layout.lastLine { text := here.text, position := here.position }

/-- The line that ends here. -/
def lastLine (here : Place) : List Char :=
  match Layout.lastLine { text := here.text, position := here.position } with
  | .ok line => line
  | .error _ => []

theorem lastLine_of_ok {here : Place} {line : List Char} (h : here.lastLine? = .ok line) :
    here.lastLine = line := by
  unfold lastLine? at h
  unfold lastLine
  rw [h]

end Place

/-! ### Remarks -/

/-- What a check adds to a reading. -/
structure Remark where
  complaint? : Option Complaint := none
  /-- The words that the dictionary was asked about. -/
  asked : List String := []
  /-- The level at which the next line has to stand. -/
  level? : Option Int := none
  /-- The line on which nothing is checked. -/
  skipLine? : Option (Option Int) := none
  /-- Whether nothing is checked at all. -/
  skipFile? : Option Json := none

namespace Remark

def ofComplaint (c : Option Complaint) : Remark := { complaint? := c }

def ofSpelling (v : Option Complaint × List String) : Remark :=
  { complaint? := v.1, asked := v.2 }

def ofIndentation (v : Option (Option Complaint × Int)) : Remark :=
  { complaint? := v.bind Prod.fst, level? := v.map Prod.snd }

def ofSkippedLine (line : Option Int) : Remark := { skipLine? := some line }

def ofSkippedFile (v : Json) : Remark := { skipFile? := some v }

end Remark

/-- A reading with a remark added. The words of a line count no more once its level is set. -/
def Reading.note (m : Remark) (r : Reading) : Reading :=
  { r with
    warnings := m.complaint?.toList.map (⟨·, r.line⟩) ++ r.warnings
    asked := m.asked.reverse ++ r.asked
    level := m.level?.getD r.level
    shift := if m.level?.isSome then 0 else r.shift
    skipLine := m.skipLine?.getD r.skipLine
    skipFile := m.skipFile?.getD r.skipFile }

namespace Lint

/-- Makes remarks up to the first that fails. -/
def make : List (Except Fault Remark) → Lint Unit
  | [], r => .ok () r
  | .ok m :: vs, r => make vs (r.note m)
  | .error f :: _, r => .error f r

theorem make_append (vs ws : List (Except Fault Remark)) :
    make (vs ++ ws) = (do make vs; make ws) := by
  funext r
  induction vs generalizing r with
  | nil => rfl
  | cons v vs ih =>
    cases v with
    | error f => rfl
    | ok m => exact ih (r.note m)

theorem report_eq (v : Verdict) : report v = make [v.map .ofComplaint] := by
  funext r
  rcases v with f | _ | c <;> rfl

/-- A verdict is the first of the remarks that follow. -/
theorem report_bind {v : Verdict} {x : Lint Unit} {vs : List (Except Fault Remark)} {r : Reading}
    (hx : ∀ c, x (r.note (.ofComplaint c)) = make vs (r.note (.ofComplaint c))) :
    (do report v; x) r = make (v.map .ofComplaint :: vs) r := by
  rw [report_eq]
  cases v with
  | error f => rfl
  | ok c => exact hx c

/-- A check whose value is kept. -/
theorem set_eq {α : Type} {v : Except Fault α} {f : α → Remark} {g : α → Reading} {r : Reading}
    (hg : ∀ a, g a = r.note (f a)) :
    (do let a ← ofExcept v; set (g a) : Lint Unit) r = make [v.map f] r := by
  cases v with
  | error e => rfl
  | ok a => exact congrArg (EStateM.Result.ok ()) (hg a)

end Lint

/-! ### The remarks on a lexeme -/

/-- What a look at the words of a lexeme has to say. -/
def Topic.spellingRemark (p : Profile) (t : Topic) (piece : List Char) : Except Fault Remark :=
  (Check.findSpelling p.settings p.knows piece t.isComment).map .ofSpelling

/-- What the check that a topic calls for has to say. -/
def Topic.remarks (p : Profile) (t : Topic) (piece : List Char) (here : Place) :
    List (Except Fault Remark) :=
  match t.inspection? with
  | none => []
  | some .comment =>
    [(Check.findComment p.settings piece).map .ofComplaint, t.spellingRemark p piece]
  | some .operator =>
    [(Check.findOperatorSpacing p.settings here.text here.position piece).map .ofComplaint]
  | some .spelling => [t.spellingRemark p piece]
  | some .tracing => [(Check.findTracing p.settings).map .ofComplaint]
  | some .declaration => [(Check.findDeclarationSpacing p.settings here.text).map .ofComplaint]
  | some .skipLine => [(Check.skippedLine p.settings here.line).map .ofSkippedLine]
  | some .skipFile => [(Check.skipsFile p.settings).map .ofSkippedFile]

namespace Reading

open Lint

theorem checkSpelling_eq (p : Profile) (t : Topic) (piece : List Char) :
    checkSpelling p t piece = make [t.spellingRemark p piece] := by
  funext r
  unfold checkSpelling Topic.spellingRemark
  cases Check.findSpelling p.settings p.knows piece t.isComment with
  | error f => rfl
  | ok v =>
    obtain ⟨_ | c, asked⟩ := v <;> rfl

/-- **The check that a topic calls for** makes its remarks, and nothing else. -/
theorem inspect_eq (p : Profile) (t : Topic) (piece : List Char) (r : Reading) :
    inspect p t piece r = make (t.remarks p piece r.place) r := by
  unfold inspect Topic.remarks
  cases t.inspection? with
  | none => rfl
  | some i =>
    cases i with
    | comment =>
      simp only [report_eq, checkSpelling_eq]
      rw [← make_append]
      rfl
    | operator => exact congrFun (report_eq _) r
    | spelling => exact congrFun (checkSpelling_eq p t piece) r
    | tracing => exact congrFun (report_eq _) r
    | declaration => exact congrFun (report_eq _) r
    | skipLine => exact set_eq fun _ => rfl
    | skipFile => exact set_eq fun _ => rfl

end Reading

/-! ### The remarks on a line -/

theorem Layout.countLine_eq (l : Layout) :
    l.countLine = { l with
      isEmptyLine := true
      emptyLines := if l.isEmptyLine then l.emptyLines + 1 else 0 } := by
  unfold countLine
  split
  · rename_i h
    rw [← h]
  · rfl

/-- What the checks of a line have to say, its indentation apart, if so many lines are empty. -/
def lineRemarks (p : Profile) (here : Place) (emptyLines : Nat) : List (Except Fault Remark) :=
  [(Check.findLongLine p.settings (.int here.lineLength)).map .ofComplaint,
    (Check.findEmptyLines p.settings (.int emptyLines)).map .ofComplaint,
    here.lastLine? >>= fun line => (Check.findTrailingBlank p.settings line).map .ofComplaint]

/-- What the check of its indentation has to say. -/
def indentRemark (p : Profile) (level : Int) (line : List Char) (shift : Int) :
    Except Fault Remark :=
  (Check.findIndentation p.settings level line shift).map .ofIndentation

namespace Reading

open Lint

theorem checkIndentation_eq (p : Profile) (line : List Char) (r : Reading) :
    checkIndentation p line r = make [indentRemark p r.level line r.shift] r := by
  unfold checkIndentation indentRemark
  rw [get_bind]
  cases Check.findIndentation p.settings r.level line r.shift with
  | error f => rfl
  | ok v =>
    rcases v with _ | ⟨_ | c, level⟩ <;> rfl

/-- What the checks have to say when a line has ended and is counted. -/
def lineEndRemarks (p : Profile) (r : Reading) : List (Except Fault Remark) :=
  lineRemarks p r.place r.emptyLines ++ [indentRemark p r.level r.place.lastLine r.shift]

/-- A reading whose line is counted. -/
def counted (r : Reading) : Reading := { r with toLayout := r.countLine }

theorem counted_eq (r : Reading) :
    r.counted = { r with
      isEmptyLine := true
      emptyLines := if r.isEmptyLine then r.emptyLines + 1 else 0 } := by
  unfold counted
  rw [Layout.countLine_eq]

theorem checkEnd_eq (p : Profile) (r : Reading) :
    (do
      Lint.report (Check.findLongLine p.settings (.int (← get).lineLength))
      Lint.report (Check.findEmptyLines p.settings (.int (← get).emptyLines))
      let line ← Lint.ofExcept (← get).lastLine
      Lint.report (Check.findTrailingBlank p.settings line)
      checkIndentation p line : Lint Unit) r = make (r.lineEndRemarks p) r := by
  refine report_bind fun c => report_bind fun c' => ?_
  rw [get_bind, show ((r.note (.ofComplaint c)).note (.ofComplaint c')).lastLine =
    r.place.lastLine? from rfl]
  cases hlast : r.place.lastLine? with
  | error f => rfl
  | ok line =>
    rw [Place.lastLine_of_ok hlast]
    exact report_bind fun _ => checkIndentation_eq p line _

/-- **The checks at the end of a line** count the line and make their remarks. -/
theorem checkLine_eq (p : Profile) (r : Reading) :
    checkLine p r =
      if r.isChecked then make (r.counted.lineEndRemarks p) r.counted else .ok () r := by
  unfold checkLine
  rw [get_bind]
  cases r.isChecked with
  | false => rfl
  | true => exact checkEnd_eq p r.counted

end Reading

/-! ### Properties of remarks -/

/-- A property of whatever the checks have to say, but for what is to be skipped and for the
indentation. -/
structure Profile.AllRemarks (p : Profile) (Q : Except Fault Remark → Prop) : Prop where
  comment : ∀ text, Q ((Check.findComment p.settings text).map .ofComplaint)
  spelling : ∀ text b, Q ((Check.findSpelling p.settings p.knows text b).map .ofSpelling)
  operatorSpacing : ∀ text place op,
    Q ((Check.findOperatorSpacing p.settings text place op).map .ofComplaint)
  tracing : Q ((Check.findTracing p.settings).map .ofComplaint)
  declarationSpacing : ∀ text, Q ((Check.findDeclarationSpacing p.settings text).map .ofComplaint)
  longLine : ∀ n : Nat, Q ((Check.findLongLine p.settings (.int n)).map .ofComplaint)
  emptyLines : ∀ n : Nat, Q ((Check.findEmptyLines p.settings (.int n)).map .ofComplaint)
  trailingBlank : ∀ line, Q ((Check.findTrailingBlank p.settings line).map .ofComplaint)
  missingComma : Q ((Check.findMissingComma p.settings).map .ofComplaint)
  trailingComma : Q ((Check.findTrailingComma p.settings).map .ofComplaint)

section AllRemarks

variable {p : Profile} {Q : Except Fault Remark → Prop} {here : Place}

/-- The remarks on a lexeme. -/
theorem Profile.AllRemarks.topic (h : p.AllRemarks Q) (t : Topic) (piece : List Char)
    (hline : t.inspection? = some .skipLine →
      Q ((Check.skippedLine p.settings here.line).map .ofSkippedLine))
    (hfile : t.inspection? = some .skipFile → Q ((Check.skipsFile p.settings).map .ofSkippedFile)) :
    ∀ v ∈ t.remarks p piece here, Q v := by
  unfold Topic.remarks
  cases hi : t.inspection? with
  | none => exact List.forall_mem_nil _
  | some i =>
    cases i with
    | comment =>
      exact List.forall_mem_cons.2 ⟨h.comment _, List.forall_mem_singleton.2 (h.spelling _ _)⟩
    | operator => exact List.forall_mem_singleton.2 (h.operatorSpacing _ _ _)
    | spelling => exact List.forall_mem_singleton.2 (h.spelling _ _)
    | tracing => exact List.forall_mem_singleton.2 h.tracing
    | declaration => exact List.forall_mem_singleton.2 (h.declarationSpacing _)
    | skipLine => exact List.forall_mem_singleton.2 (hline hi)
    | skipFile => exact List.forall_mem_singleton.2 (hfile hi)

/-- The remarks on a line. -/
theorem Profile.AllRemarks.line (h : p.AllRemarks Q) (n : Nat)
    (hlast : ∀ f, here.lastLine? = .error f → Q (.error f)) :
    ∀ v ∈ lineRemarks p here n, Q v := by
  have hblank : Q (here.lastLine? >>= fun line =>
      (Check.findTrailingBlank p.settings line).map .ofComplaint) := by
    cases hl : here.lastLine? with
    | error f => exact hlast f hl
    | ok line => exact h.trailingBlank line
  exact List.forall_mem_cons.2 ⟨h.longLine _, List.forall_mem_cons.2 ⟨h.emptyLines _,
    List.forall_mem_singleton.2 hblank⟩⟩

end AllRemarks

/-- No remark says that the code is not a program. -/
theorem Profile.neutral_remarks (p : Profile) : p.AllRemarks Neutral where
  comment _ := (Check.neutral_comment _ _).map _
  spelling _ _ := (Check.neutral_spelling _ _ _ _).map _
  operatorSpacing _ _ _ := (Check.neutral_operatorSpacing _ _ _ _).map _
  tracing := (Check.neutral_tracing _).map _
  declarationSpacing _ := (Check.neutral_declarationSpacing _ _).map _
  longLine _ := (Check.neutral_longLine _ _).map _
  emptyLines _ := (Check.neutral_emptyLines _ _).map _
  trailingBlank _ := (Check.neutral_trailingBlank _ _).map _
  missingComma := (Check.neutral_missingComma _).map _
  trailingComma := (Check.neutral_trailingComma _).map _

end BrightLint
