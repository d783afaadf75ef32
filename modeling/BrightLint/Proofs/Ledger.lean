import BrightLint.Proofs.LineComposition

/-!
The ledger of a reading: what the style checks keep and say. It holds the warnings, the run of empty
lines, the level of the lines, and what is to be skipped. A lexeme that is read without a fault
changes the ledger in one way only, which can be told from the settings, the place in the text, and
the outline: the outline decides whether a comma is complained of.

* `Ledger`, `Reading.ledger`: the ledger of a reading
* `Place.beyond`, `Place.past`: the place after a lexeme
* `Ledger.make`: what remarks do to a ledger
* `Topic.complaints`: what the check that a topic calls for has to say
* `Ledger.checkLine`: what the end of a line does
* `Ledger.next`: what a lexeme does
* `Reading.ledger_readLexeme`, `Reading.ledger_finish`: this is what reading comes to
-/

namespace BrightLint

/-! ### Places -/

namespace Place

/-- The place after a lexeme. -/
def beyond (x : Lexeme) (here : Place) : Place :=
  { here with
    position := here.position + x.text.length
    lineLength := here.lineLength + x.text.length }

/-- The place after a lexeme, if it can be the end of a line. -/
def past (x : Lexeme) (here : Place) : Place :=
  if x.kind = .newLine then { here.beyond x with line := here.line + 1, lineLength := 0 }
  else here.beyond x

end Place

/-! ### Complaints -/

/-- The complaint of a verdict, if there is one. -/
def complaintsOf : Verdict → List Complaint
  | .ok c => c.toList
  | .error _ => []

/-- What a look at the words of a lexeme has to say. -/
def spellingComplaints (p : Profile) (t : Topic) (piece : List Char) : List Complaint :=
  complaintsOf ((Check.findSpelling p.settings p.knows piece t.isComment).map Prod.fst)

/-- What the check that a topic calls for has to say, the latest complaint first. -/
def Topic.complaints (p : Profile) (t : Topic) (piece : List Char) (here : Place) :
    List Complaint :=
  match t.inspection? with
  | some .comment => match Check.findComment p.settings piece with
    | .ok c => spellingComplaints p t piece ++ c.toList
    | .error _ => []
  | some .operator =>
    complaintsOf (Check.findOperatorSpacing p.settings here.text here.position piece)
  | some .spelling => spellingComplaints p t piece
  | some .tracing => complaintsOf (Check.findTracing p.settings)
  | some .declaration => complaintsOf (Check.findDeclarationSpacing p.settings here.text)
  | some .skipLine | some .skipFile | none => []

namespace Outline

/-- The complaint about a comma that the end of a line stands for. -/
def missingComma (s : Settings) (o : Outline) : List Complaint :=
  if o.wantsComma then complaintsOf (Check.findMissingComma s) else []

/-- The complaint about a comma that a boundary drops. -/
def droppedComma (s : Settings) (o : Outline) : List Complaint :=
  if (o.topic.bind Topic.boundary?).any Boundary.isClosing && o.endsInComma then
    complaintsOf (Check.findTrailingComma s)
  else []

end Outline

/-! ### Ledgers -/

/-- What the style checks keep and say. -/
structure Ledger where
  isEmptyLine : Bool
  emptyLines : Nat
  level : Int
  shift : Int
  skipFile : Json
  skipLine : Option Int
  warnings : List Warning

/-- The ledger of a reading. -/
def Reading.ledger (r : Reading) : Ledger where
  isEmptyLine := r.isEmptyLine
  emptyLines := r.emptyLines
  level := r.level
  shift := r.shift
  skipFile := r.skipFile
  skipLine := r.skipLine
  warnings := r.warnings

namespace Ledger

/-- Whether the style checks are made on a line. -/
def isChecked (line : Nat) (l : Ledger) : Bool :=
  l.skipLine != some (line : Int) && !l.skipFile.isTrue

theorem isChecked_iff {line : Nat} {l : Ledger} :
    l.isChecked line = true ↔ l.skipLine ≠ some (line : Int) ∧ l.skipFile.isTrue = false := by
  rw [isChecked, Bool.and_eq_true, bne_iff_ne, Bool.not_eq_true']

/-- Adds complaints as warnings on the line of a place. -/
def warn (cs : List Complaint) (here : Place) (l : Ledger) : Ledger :=
  { l with warnings := cs.map (⟨·, here.line⟩) ++ l.warnings }

theorem warn_warn (cs ds : List Complaint) (here : Place) (l : Ledger) :
    (l.warn cs here).warn ds here = l.warn (ds ++ cs) here := by
  simp [warn]

theorem warn_nil (here : Place) (l : Ledger) : l.warn [] here = l := rfl

/-- A ledger with a remark added. -/
def note (m : Remark) (here : Place) (l : Ledger) : Ledger :=
  { l with
    warnings := m.complaint?.toList.map (⟨·, here.line⟩) ++ l.warnings
    level := m.level?.getD l.level
    shift := if m.level?.isSome then 0 else l.shift
    skipLine := m.skipLine?.getD l.skipLine
    skipFile := m.skipFile?.getD l.skipFile }

/-- Makes remarks up to the first that fails. -/
def make : List (Except Fault Remark) → Place → Ledger → Ledger
  | .ok m :: vs, here, l => make vs here (l.note m here)
  | _, _, l => l

/-- Takes note of what is to be skipped, if a topic is about that. -/
def heed (p : Profile) (t : Topic) (line : Nat) (l : Ledger) : Ledger :=
  match t.inspection? with
  | some .skipLine => match Check.skippedLine p.settings line with
    | .ok next => { l with skipLine := next }
    | .error _ => l
  | some .skipFile => match Check.skipsFile p.settings with
    | .ok v => { l with skipFile := v }
    | .error _ => l
  | _ => l

/-- The check that a topic calls for. -/
def inspect (p : Profile) (t : Topic) (piece : List Char) (here : Place) (l : Ledger) : Ledger :=
  (l.heed p t here.line).warn (t.complaints p piece here) here

theorem make_append {vs : List (Except Fault Remark)} (h : ∀ v ∈ vs, Succeeds v)
    (ws : List (Except Fault Remark)) (here : Place) (l : Ledger) :
    make (vs ++ ws) here l = make ws here (make vs here l) := by
  induction vs generalizing l with
  | nil => rfl
  | cons v vs ih =>
    obtain ⟨⟨m, rfl⟩, hvs⟩ := List.forall_mem_cons.1 h
    exact ih hvs (l.note m here)

theorem make_ofComplaint (v : Verdict) (here : Place) (l : Ledger) :
    l.warn (complaintsOf v) here = make [v.map .ofComplaint] here l := by
  rcases v with f | _ | c <;> rfl

theorem make_spelling (p : Profile) (t : Topic) (piece : List Char) (here : Place) (l : Ledger) :
    l.warn (spellingComplaints p t piece) here = make [t.spellingRemark p piece] here l := by
  unfold spellingComplaints Topic.spellingRemark
  cases Check.findSpelling p.settings p.knows piece t.isComment with
  | error f => rfl
  | ok v =>
    obtain ⟨_ | c, asked⟩ := v <;> rfl

/-- The check that a topic calls for makes its remarks. -/
theorem inspect_eq_make (p : Profile) (t : Topic) (piece : List Char) (here : Place) (l : Ledger) :
    l.inspect p t piece here = make (t.remarks p piece here) here l := by
  unfold inspect heed Topic.complaints Topic.remarks
  cases t.inspection? with
  | none => rfl
  | some i =>
    cases i with
    | comment =>
      cases Check.findComment p.settings piece with
      | error f => rfl
      | ok c =>
        change l.warn (spellingComplaints p t piece ++ c.toList) here = _
        rw [← warn_warn]
        exact make_spelling p t piece here (l.warn c.toList here)
    | operator => exact make_ofComplaint _ here l
    | spelling => exact make_spelling p t piece here l
    | tracing => exact make_ofComplaint _ here l
    | declaration => exact make_ofComplaint _ here l
    | skipLine => cases Check.skippedLine p.settings here.line <;> rfl
    | skipFile => cases Check.skipsFile p.settings <;> rfl

/-- Counts a line that has ended. -/
def countLine (l : Ledger) : Ledger :=
  if l.isEmptyLine then { l with emptyLines := l.emptyLines + 1 }
  else { l with isEmptyLine := true, emptyLines := 0 }

theorem countLine_eq (l : Ledger) :
    l.countLine = { l with
      isEmptyLine := true
      emptyLines := if l.isEmptyLine then l.emptyLines + 1 else 0 } := by
  unfold countLine
  split
  · rename_i h
    rw [← h]
  · rfl

/-- What the checks of a line have to say, its indentation apart, if so many lines are empty. -/
def lineComplaints (p : Profile) (here : Place) (emptyLines : Nat) : List Complaint :=
  complaintsOf (Check.findTrailingBlank p.settings here.lastLine) ++
    complaintsOf (Check.findEmptyLines p.settings (.int emptyLines)) ++
    complaintsOf (Check.findLongLine p.settings (.int here.lineLength))

/-- The check of the indentation of a line. -/
def indent (p : Profile) (line : List Char) (here : Place) (l : Ledger) : Ledger :=
  match Check.findIndentation p.settings l.level line l.shift with
  | .ok (some (complaint, level)) =>
    { l.warn complaint.toList here with level := level, shift := 0 }
  | _ => l

theorem make_lineRemarks {p : Profile} {here : Place} {n : Nat}
    (h : ∀ v ∈ lineRemarks p here n, Succeeds v) (l : Ledger) :
    make (lineRemarks p here n) here l = l.warn (lineComplaints p here n) here := by
  obtain ⟨hlong, hrest⟩ := List.forall_mem_cons.1 h
  obtain ⟨hempty, hblank⟩ := List.forall_mem_cons.1 hrest
  cases hlast : here.lastLine? with
  | error f =>
    rw [hlast] at hblank
    obtain ⟨_, hf⟩ := List.forall_mem_singleton.1 hblank
    cases hf
  | ok line =>
    rw [lineRemarks, hlast, ← List.singleton_append,
      make_append (List.forall_mem_singleton.2 hlong), ← List.singleton_append,
      make_append (List.forall_mem_singleton.2 hempty), ← make_ofComplaint, ← make_ofComplaint]
    refine (make_ofComplaint (Check.findTrailingBlank p.settings line) here _).symm.trans ?_
    rw [warn_warn, warn_warn, lineComplaints, Place.lastLine_of_ok hlast]

theorem make_indentRemark (p : Profile) (line : List Char) (here : Place) (l : Ledger) :
    make [indentRemark p l.level line l.shift] here l = l.indent p line here := by
  unfold indentRemark indent
  cases Check.findIndentation p.settings l.level line l.shift with
  | error f => rfl
  | ok v =>
    rcases v with _ | ⟨_ | c, level⟩ <;> rfl

/-- The checks at the end of a line. -/
def checkLine (p : Profile) (here : Place) (l : Ledger) : Ledger :=
  if l.isChecked here.line then
    (l.countLine.warn (lineComplaints p here l.countLine.emptyLines) here).indent p here.lastLine
      here
  else l

/-- The checks that a word calls for. -/
def meet (p : Profile) (x : Lexeme) (here : Place) (l : Ledger) : Ledger :=
  if l.isChecked here.line then
    { l with isEmptyLine := false }.inspect p (.kind x.kind) x.text here
  else l

/-- What a lexeme does, apart from its meaning for brackets. -/
def takeIn (p : Profile) (x : Lexeme) (here : Place) (o : Outline) (l : Ledger) : Ledger :=
  match x.role with
  | .lineEnd => (l.checkLine p here).warn (o.missingComma p.settings) here
  | .directive command => l.inspect p (.directive command) x.text here
  | .word => l.meet p x here

/-- What a lexeme does. -/
def next (p : Profile) (x : Lexeme) (here : Place) (o : Outline) (l : Ledger) : Ledger :=
  if x.kind = .blank then l
  else ({ l with shift := l.shift + x.shift }.takeIn p x (here.beyond x) o).warn
    ((o.read x).droppedComma p.settings) here

end Ledger

/-! ### Steps and the ledger -/

namespace Lint

variable {α β : Type} {r r' : Reading}

/-- A reading at the same place with a given ledger. -/
structure Notes (l : Ledger) (r r' : Reading) : Prop where
  place : r'.place = r.place
  ledger : r'.ledger = l

/-- A step that stays at its place and changes the ledger by `g`, whatever its outcome. -/
def Records (x : Lint α) (g : Place → Ledger → Ledger) : Prop :=
  ∀ r : Reading, Notes (g r.place r.ledger) r (left (x r))

theorem Records.of_ok {x : Lint α} {g : Place → Ledger → Ledger} {a : α} (hx : Records x g)
    (h : x r = .ok a r') : Notes (g r.place r.ledger) r r' := by
  have hr := hx r
  rw [h] at hr
  exact hr

theorem Records.passMissing {x : Lint Unit} {g : Place → Ledger → Ledger} (hx : Records x g) :
    Records (passMissing x) g := fun r => (left_passMissing x r).symm ▸ hx r

theorem notes_warn_nil (r : Reading) : Notes (r.ledger.warn [] r.place) r r := ⟨rfl, rfl⟩

theorem records_make (vs : List (Except Fault Remark)) :
    Records (make vs) (Ledger.make vs) := by
  intro r
  induction vs generalizing r with
  | nil => exact ⟨rfl, rfl⟩
  | cons v vs ih =>
    cases v with
    | error f => exact ⟨rfl, rfl⟩
    | ok m => exact ⟨(ih (r.note m)).place, (ih (r.note m)).ledger⟩

theorem make_ok {vs : List (Except Fault Remark)} (h : make vs r = .ok () r') :
    ∀ v ∈ vs, Succeeds v := by
  induction vs generalizing r with
  | nil => exact List.forall_mem_nil _
  | cons v vs ih =>
    cases v with
    | error f => cases h
    | ok m => exact List.forall_mem_cons.2 ⟨succeeds_ok m, ih h⟩

end Lint

namespace Reading

open Lint

variable {p : Profile} {r r' : Reading}

/-! ### Lexemes -/

/-- **The check that a topic calls for.** -/
theorem records_inspect (p : Profile) (t : Topic) (piece : List Char) :
    Records (inspect p t piece) (Ledger.inspect p t piece) := by
  intro r
  rw [inspect_eq, Ledger.inspect_eq_make]
  exact records_make _ r

theorem records_inspectWord (p : Profile) (x : Lexeme) :
    Records (inspectWord p x) (Ledger.meet p x) := by
  intro r
  rw [inspectWord, get_bind, Ledger.meet,
    show r.ledger.isChecked r.place.line = r.isChecked from rfl]
  split
  · have h := (records_inspect p (.kind x.kind) x.text).passMissing { r with isEmptyLine := false }
    exact ⟨h.place, h.ledger⟩
  · exact ⟨rfl, rfl⟩

/-! ### The end of a line -/

theorem ledger_counted (r : Reading) : r.counted.ledger = r.ledger.countLine := by
  rw [counted_eq, Ledger.countLine_eq]
  rfl

theorem place_counted (r : Reading) : r.counted.place = r.place := by
  rw [counted_eq]
  rfl

/-- **The checks at the end of a line.** -/
theorem notes_checkLine (h : checkLine p r = .ok () r') :
    Notes (r.ledger.checkLine p r.place) r r' := by
  unfold Ledger.checkLine
  rw [show r.ledger.isChecked r.place.line = r.isChecked from rfl]
  rw [checkLine_eq] at h
  split at h
  · next hchecked =>
    obtain ⟨hplace, hledger⟩ := (records_make _).of_ok h
    have hline := (List.forall_mem_append.1 (make_ok h)).1
    rw [lineEndRemarks, Ledger.make_append hline, Ledger.make_lineRemarks hline,
      place_counted] at hledger
    refine ⟨hplace.trans (place_counted r), hledger.trans ?_⟩
    rw [if_pos hchecked, ← ledger_counted]
    exact Ledger.make_indentRemark p _ _ (r.counted.ledger.warn _ _)
  · next hchecked =>
    cases h
    rw [if_neg hchecked]
    exact ⟨rfl, rfl⟩

/-- Where a line is checked, the check of its indentation gives an answer. -/
theorem findIndentation_checkLine (h : checkLine p r = .ok () r') (hchecked : r.isChecked = true) :
    ∃ v, Check.findIndentation p.settings r.level r.place.lastLine r.shift = .ok v := by
  rw [checkLine_eq, if_pos hchecked] at h
  have hindent := List.forall_mem_singleton.1 (List.forall_mem_append.1 (make_ok h)).2
  rw [place_counted] at hindent
  rw [counted_eq] at hindent
  unfold indentRemark at hindent
  cases hv : Check.findIndentation p.settings r.level r.place.lastLine r.shift with
  | ok v => exact ⟨v, rfl⟩
  | error f =>
    rw [hv] at hindent
    obtain ⟨_, hf⟩ := hindent
    cases hf

theorem missesToken_wantsComma {o : Outline} (h : o.missesToken = true) : o.wantsComma = false := by
  unfold Outline.missesToken at h
  unfold Outline.wantsComma
  have hnone : o.tokens = [] := List.isEmpty_iff.1 (Bool.and_eq_true_iff.1 h).2
  rw [hnone]
  exact Bool.and_false _

theorem notes_addComma (p : Profile) (r : Reading) :
    Notes (r.ledger.warn (r.outline.missingComma p.settings) r.place) r (left (addComma p r)) := by
  rw [addComma_eq, Outline.missingComma]
  by_cases hmisses : r.outline.missesToken = true
  · rw [if_pos hmisses, if_neg (by rw [missesToken_wantsComma hmisses]; decide)]
    exact notes_warn_nil r
  · rw [if_neg hmisses]
    split
    · rw [Ledger.make_ofComplaint]
      obtain ⟨hplace, hledger⟩ := records_make
        [(Check.findMissingComma p.settings).map .ofComplaint] (r.push (.addedComma r.line))
      exact ⟨hplace, hledger⟩
    · exact notes_warn_nil r

/-- **The end of a line**, which is counted after everything else. -/
theorem ledger_endLine (h : endLine p r = .ok () r') :
    r'.ledger =
      (r.ledger.checkLine p r.place).warn (r.outline.missingComma p.settings) r.place := by
  obtain ⟨⟨⟩, r₁, hcheck, h⟩ := bind_ok (s := { r with statementEnded := true }) h
  obtain ⟨⟨⟩, r₂, hcomma, h⟩ := bind_ok h
  cases h
  have hout : r₁.outline = { r with statementEnded := true }.outline := by
    have hkeeps := keeps_checkLine p { r with statementEnded := true }
    rw [hcheck] at hkeeps
    exact hkeeps
  obtain ⟨hplace₁, hledger₁⟩ := notes_checkLine hcheck
  obtain ⟨-, hledger₂⟩ := notes_addComma p r₁
  rw [hcomma, hplace₁, hledger₁, hout] at hledger₂
  exact hledger₂

/-! ### Brackets -/

theorem endsInComma_of_length {o : Outline} (h : o.tokens.length < 2) :
    o.endsInComma = false := by
  unfold Outline.endsInComma
  rcases htok : o.tokens with _ | ⟨t, _ | ⟨u, rest⟩⟩
  · rfl
  · rfl
  · rw [htok, List.length_cons, List.length_cons] at h
    omega

/-- A bracket that closes complains of a comma that it drops. -/
theorem notes_applyBoundary (p : Profile) (b : Boundary) (r : Reading) :
    Notes (r.ledger.warn (if b.isClosing && r.outline.endsInComma then
      complaintsOf (Check.findTrailingComma p.settings) else []) r.place) r
      (left (applyBoundary p b r)) := by
  have hwrite (r : Reading) : Notes r.ledger r (b.write r) := by cases b <;> exact ⟨rfl, rfl⟩
  rw [applyBoundary_eq]
  by_cases hlacks : (b.isClosing && decide (r.tokens.length < 2)) = true
  · -- with fewer than two tokens there is no comma to look at
    have hlen := of_decide_eq_true (Bool.and_eq_true_iff.1 hlacks).2
    rw [if_pos hlacks, endsInComma_of_length (o := r.outline) hlen, Bool.and_false]
    exact notes_warn_nil r
  · rw [if_neg hlacks, Boundary.remarks]
    cases b.isClosing && r.outline.endsInComma with
    | false => exact hwrite r
    | true =>
      cases Check.findTrailingComma p.settings with
      | error f => exact notes_warn_nil r
      | ok c =>
        obtain ⟨hplace, hledger⟩ := hwrite (r.note (.ofComplaint c))
        exact ⟨hplace, hledger⟩

theorem notes_settle (r : Reading) :
    Notes r.ledger r (if r.isInside then { r with statementEnded := false } else r) := by
  split <;> exact ⟨rfl, rfl⟩

/-- **What a lexeme means for brackets** gives rise to no other complaint. -/
theorem notes_endLexeme {b : Bool} (h : endLexeme p r = .ok b r') :
    Notes (r.ledger.warn (r.outline.droppedComma p.settings) r.place) r r' := by
  unfold Outline.droppedComma
  rw [show r.outline.topic = r.topic from rfl]
  cases hb : r.topic.bind Topic.boundary? with
  | none =>
    rw [endLexeme_of_none hb h]
    exact notes_settle r
  | some b =>
    unfold endLexeme checkBoundary at h
    simp only [get_bind, bind_assoc, hb] at h
    obtain ⟨⟨⟩, r₁, hbound, h⟩ := bind_ok h
    cases h
    have hleft := left_passMissing (applyBoundary p b) r
    rw [hbound] at hleft
    obtain ⟨hplace, hledger⟩ := notes_applyBoundary p b r
    rw [← hleft] at hplace hledger
    obtain ⟨hplace', hledger'⟩ := notes_settle r₁
    exact ⟨hplace'.trans hplace, hledger'.trans hledger⟩

/-! ### A lexeme -/

theorem notes_countFunction (k : Kind) (r : Reading) : Notes r.ledger r (countFunction k r) := by
  unfold countFunction
  split
  · exact ⟨rfl, rfl⟩
  · cases k <;> exact ⟨rfl, rfl⟩

theorem notes_addToken (x : Lexeme) (h : addToken x r = .ok () r') : Notes r.ledger r r' := by
  unfold addToken at h
  cases ht : x.token? with
  | none =>
    rw [ht] at h
    cases h
    exact ⟨rfl, rfl⟩
  | some t =>
    rw [ht] at h
    cases h
    exact ⟨rfl, rfl⟩

/-- What a lexeme does before it is taken as a boundary. Only the end of a line moves to another
line. -/
theorem ledger_takeIn {x : Lexeme} (h : takeIn p x r = .ok () r') :
    r'.ledger =
      { r.ledger with shift := r.shift + x.shift }.takeIn p x (r.place.beyond x) r.outline ∧
      (x.role = .lineEnd ∨ r'.line = r.line) := by
  obtain ⟨⟨⟩, r₀, hmove, h⟩ := bind_ok h
  obtain ⟨⟨⟩, r₁, hturn, h⟩ := bind_ok h
  cases hmove
  cases hturn
  unfold Ledger.takeIn
  cases hrole : x.role with
  | lineEnd =>
    rw [hrole] at h
    exact ⟨ledger_endLine h, .inl rfl⟩
  | directive command =>
    rw [hrole] at h
    obtain ⟨⟨⟩, r₂, hturn, h⟩ := bind_ok h
    cases hturn
    obtain ⟨hplace, hledger⟩ := (records_inspect p (.directive command) x.text).passMissing.of_ok h
    exact ⟨hledger, .inr (congrArg Place.line hplace)⟩
  | word =>
    rw [hrole] at h
    obtain ⟨⟨⟩, r₂, hcount, h⟩ := bind_ok h
    obtain ⟨⟨⟩, r₃, hinspect, h⟩ := bind_ok h
    have hcounted : Notes (turnTo x (moveOver x r)).ledger (turnTo x (moveOver x r)) r₂ := by
      cases hcount
      exact notes_countFunction x.kind _
    obtain ⟨hplace₂, hledger₂⟩ := hcounted
    obtain ⟨hplace₃, hledger₃⟩ := (records_inspectWord p x).of_ok hinspect
    obtain ⟨hplace, hledger⟩ := notes_addToken x h
    rw [hplace₂, hledger₂] at hledger₃
    refine ⟨hledger.trans hledger₃, .inr ?_⟩
    exact congrArg Place.line (hplace.trans (hplace₃.trans hplace₂))

/-- The end of a line is no boundary. -/
theorem droppedComma_of_lineEnd {x : Lexeme} (hx : x.role = .lineEnd) (s : Settings) (o : Outline) :
    (o.read x).droppedComma s = [] := by
  have hkind := x.kind_of_lineEnd hx
  unfold Outline.droppedComma
  rw [Outline.boundary?_read (by rw [hkind]; decide), hkind]
  rfl

theorem ledger_advance {x : Lexeme} {b : Bool} (h : advance p x r = .ok b r') :
    r'.ledger = r.ledger.next p x r.place r.outline := by
  unfold Ledger.next
  by_cases hx : x.kind = .blank
  · rw [advance_of_blank p hx] at h
    cases h
    rw [if_pos hx]
    rfl
  · rw [advance_of_ne p hx] at h
    obtain ⟨⟨⟩, r₁, htake, hend⟩ := bind_ok h
    have hout : r₁.outline = r.outline.read x := by
      have hsteps := steps_takeIn p x r
      rw [htake] at hsteps
      exact hsteps
    obtain ⟨hledger₁, hline⟩ := ledger_takeIn htake
    have hledger := (notes_endLexeme hend).ledger
    rw [hout, hledger₁] at hledger
    rw [if_neg hx, hledger]
    rcases hline with hrole | hline
    · rw [droppedComma_of_lineEnd hrole]
      rfl
    · unfold Ledger.warn
      rw [show r₁.place.line = r.place.line from hline]
      rfl

/-- **A lexeme** changes the ledger in one way only. -/
theorem ledger_readLexeme {x : Lexeme} (h : readLexeme p x r = .ok () r') :
    r'.ledger = r.ledger.next p x r.place r.outline := by
  obtain ⟨ended, r₁, hadvance, h⟩ := bind_ok h
  rw [← ledger_advance hadvance]
  cases ended with
  | false =>
    cases h
    rfl
  | true =>
    cases h
    rfl

/-- **A line feed** is read only if the check of the indentation gives an answer, where it is
made. -/
theorem findIndentation_lineFeed (h : readLexeme p .lineFeed r = .ok () r')
    (hchecked : r.isChecked = true) :
    ∃ v, Check.findIndentation p.settings r.level (r.place.beyond .lineFeed).lastLine r.shift =
      .ok v := by
  obtain ⟨_, _, hadvance, -⟩ := bind_ok h
  rw [advance_of_ne p (by decide)] at hadvance
  obtain ⟨⟨⟩, _, htake, -⟩ := bind_ok hadvance
  obtain ⟨⟨⟩, _, hmove, htake⟩ := bind_ok htake
  obtain ⟨⟨⟩, _, hturn, htake⟩ := bind_ok htake
  cases hmove
  cases hturn
  obtain ⟨⟨⟩, _, hcheck, -⟩ := bind_ok
    (s := { turnTo .lineFeed (moveOver .lineFeed r) with statementEnded := true }) htake
  have hfind := findIndentation_checkLine hcheck hchecked
  rwa [show (turnTo .lineFeed (moveOver .lineFeed r)).shift = r.shift from Int.add_zero _]
    at hfind

/-- **A lexeme** moves to the place after it. -/
theorem place_readLexeme {x : Lexeme} (h : readLexeme p x r = .ok () r') :
    r'.place = r.place.past x := by
  obtain ⟨hout, htext, hposition, hlength, -, -⟩ := readLexeme_ok h
  have hstays := Outline.stays_next p.isLax x r.outline
  rw [← hout] at hstays
  have hline : r'.line = if x.kind = .newLine then r.line + 1 else r.line := hstays.line
  unfold place Place.past
  rw [htext, hposition, hlength, hline]
  split <;> rfl

/-- **The end of a text** ends its last line. -/
theorem ledger_finish {rest : List Char} (h : finish p rest r = .ok () r') :
    r'.ledger = r.ledger.checkLine p r.place := by
  rw [finish_eq] at h
  obtain ⟨⟨⟩, r₁, hcheck, h⟩ := bind_ok h
  cases h
  have hledger := (notes_checkLine hcheck).ledger
  split at hledger <;> exact hledger

end Reading

end BrightLint
