import BrightLint.Proofs.ReadingTokens

/-!
The place of a reading, its warnings, and the level of its lines. A lexeme moves the place before
anything else is done with it, and the end of a line counts the line after everything else. What
lies between, the style checks and the brackets, leaves the place alone. It may warn, but only of
the current line, and with a parameter for every slot of the message. Only the check of the
indentation raises the level, and by no more than one. Nothing looks at the number of statements.

* `Complaint.IsFull`: a complaint that fills its message
* `Remark.IsWithin`: a remark that says no more than this, and sets no higher level
* `Reading.Rests`: a reading that has not moved on
* `Lint.Blind`: a step that does not look at the number of statements
* `Lint.Steady`: a step that does neither
* `Reading.Passes`, `Reading.passes_advance`: what a lexeme does to the place and the warnings
-/

namespace BrightLint

/-! ### Complaints -/

/-- A complaint with as many parameters as its message has slots, besides the one for the line. -/
def Complaint.IsFull (c : Complaint) : Prop := c.finding.template.slots = c.params.length + 1

/-- No complaint, or one that is full. -/
def FullIfAny (o : Option Complaint) : Prop := ∀ c ∈ o, c.IsFull

theorem fullIfAny_none : FullIfAny none := fun _ h => by cases h

theorem fullIfAny_some {c : Complaint} (h : c.IsFull) : FullIfAny (some c) := fun _ hc => by
  cases hc
  exact h

/-- A computation whose value, if there is one, has a property. -/
def Gives {α : Type} (P : α → Prop) (v : Except Fault α) : Prop := ∀ a, v = .ok a → P a

section Gives

variable {α β : Type} {P : α → Prop} {Q : β → Prop}

theorem gives_ok {a : α} (h : P a) : Gives P (.ok a) := fun _ he => by
  cases he
  exact h

theorem Gives.bind {v : Except Fault α} {g : α → Except Fault β} (hg : ∀ a, Gives Q (g a)) :
    Gives Q (v >>= g) := by
  cases v with
  | ok a => exact hg a
  | error f => exact fun _ h => by cases h

theorem Gives.map {v : Except Fault α} {g : α → β} (h : Gives (fun a => Q (g a)) v) :
    Gives Q (v.map g) := by
  cases v with
  | ok a => exact gives_ok (h a rfl)
  | error f => exact fun _ he => by cases he

end Gives

theorem gives_whenActive (s : Settings) (c : Check) {body : Verdict} (h : Gives FullIfAny body) :
    Gives FullIfAny (whenActive s c body) := by
  refine Gives.bind fun b => ?_
  split
  · exact h
  · exact gives_ok fullIfAny_none

theorem gives_complain {f : Finding} (h : f.template.slots = 1) : Gives FullIfAny (complain f) :=
  gives_ok (fullIfAny_some h)

namespace Check

theorem full_tracing (s : Settings) : Gives FullIfAny (findTracing s) :=
  gives_whenActive s _ (gives_complain rfl)

theorem full_missingComma (s : Settings) : Gives FullIfAny (findMissingComma s) :=
  gives_whenActive s _ (gives_complain rfl)

theorem full_trailingComma (s : Settings) : Gives FullIfAny (findTrailingComma s) :=
  gives_whenActive s _ (gives_complain rfl)

theorem full_longLine (s : Settings) (length : Json) : Gives FullIfAny (findLongLine s length) := by
  refine gives_whenActive s _ (Gives.bind fun limit => Gives.bind fun b => ?_)
  split
  · exact gives_ok (fullIfAny_some rfl)
  · exact gives_ok fullIfAny_none

theorem full_emptyLines (s : Settings) (count : Json) :
    Gives FullIfAny (findEmptyLines s count) := by
  refine gives_whenActive s _ (Gives.bind fun allowed => Gives.bind fun b => ?_)
  split
  · exact gives_ok (fullIfAny_some rfl)
  · exact gives_ok fullIfAny_none

theorem full_trailingBlank (s : Settings) (line : List Char) :
    Gives FullIfAny (findTrailingBlank s line) := by
  refine gives_whenActive s _ ?_
  split
  · exact gives_complain rfl
  · exact gives_ok fullIfAny_none

theorem full_operatorSpacing (s : Settings) (text : List Char) (place : Int) (op : List Char) :
    Gives FullIfAny (findOperatorSpacing s text place op) := by
  refine gives_whenActive s _ (Gives.bind fun spaces => Gives.bind fun n => ?_)
  refine Gives.bind fun gap => ?_
  split
  · exact gives_ok fullIfAny_none
  · exact gives_ok (fullIfAny_some rfl)

theorem full_declarationSpacing (s : Settings) (text : List Char) :
    Gives FullIfAny (findDeclarationSpacing s text) := by
  refine Gives.bind fun b => ?_
  split
  · exact gives_ok fullIfAny_none
  · refine Gives.bind fun count => Gives.bind fun fits => ?_
    split
    · exact gives_ok fullIfAny_none
    · exact gives_ok (fullIfAny_some rfl)

theorem full_comment (s : Settings) (text : List Char) : Gives FullIfAny (findComment s text) := by
  refine gives_whenActive s _ (Gives.bind fun rules => ?_)
  split
  · split
    · refine Gives.bind fun fits => ?_
      split
      · exact gives_ok fullIfAny_none
      · exact gives_complain rfl
    · exact gives_ok fullIfAny_none
  · refine Gives.bind fun fits => ?_
    split
    · exact gives_ok fullIfAny_none
    · exact gives_complain rfl
  · split
    · exact gives_complain rfl
    · exact gives_ok fullIfAny_none
  · exact gives_complain rfl

theorem full_spelling (s : Settings) (knows : Dictionary) (text : List Char) (b : Bool) :
    Gives (fun v => FullIfAny v.1) (findSpelling s knows text b) := by
  refine Gives.bind fun active => ?_
  split
  · exact gives_ok fullIfAny_none
  · refine gives_ok fun c hc => ?_
    simp only [Option.mem_def, Option.ite_none_right_eq_some] at hc
    cases hc.2
    rfl

theorem levelAfter_le (level shift : Int) (line : List Char) :
    levelAfter level shift line ≤ level + 1 := by
  unfold levelAfter levelOf
  simp only
  split <;> split <;> split <;> omega

/-- The check of the indentation also gives the level after the line. -/
theorem full_indentation (s : Settings) (level : Int) (line : List Char) (shift : Int) :
    Gives (fun v => ∀ u ∈ v, FullIfAny u.1 ∧ u.2 ≤ level + 1)
      (findIndentation s level line shift) := by
  have hrule : ∀ level : Json, Gives (fun v => v.2.IsFull) (indentRule s level) := by
    intro level
    refine Gives.bind fun params => Gives.bind fun size => Gives.bind fun onlyTabs => ?_
    split
    · exact Gives.bind fun test => gives_ok rfl
    · exact Gives.bind fun width => Gives.bind fun test => gives_ok rfl
  have hat : ∀ level : Int, Gives FullIfAny (findIndentAt s level line) := by
    intro level
    unfold findIndentAt
    cases h : indentRule s (.int level) with
    | error f => exact fun _ he => by cases he
    | ok rule =>
      have hfull := hrule _ rule h
      obtain ⟨fits, complaint⟩ := rule
      change Gives FullIfAny (if fits line = true then _ else _)
      split
      · exact gives_ok fullIfAny_none
      · exact gives_ok (fullIfAny_some hfull)
  refine Gives.bind fun active => ?_
  split
  · exact gives_ok fun _ h => by cases h
  · cases h : findIndentAt s (levelOf level shift) line with
    | error f => exact fun _ he => by cases he
    | ok complaint =>
      refine gives_ok fun u hu => ?_
      cases hu
      exact ⟨hat _ _ h, levelAfter_le level shift line⟩

end Check

/-! ### Remarks -/

/-- A remark with a full complaint, if any, and a level of no more than `top`, if any. -/
structure Remark.IsWithin (top : Int) (m : Remark) : Prop where
  full : FullIfAny m.complaint?
  level : ∀ level ∈ m.level?, level ≤ top

theorem Remark.isWithin_ofComplaint {c : Option Complaint} (h : FullIfAny c) (top : Int) :
    (ofComplaint c).IsWithin top := ⟨h, fun _ hl => by cases hl⟩

theorem gives_ofComplaint {v : Verdict} (h : Gives FullIfAny v) (top : Int) :
    Gives (Remark.IsWithin top) (v.map .ofComplaint) :=
  Gives.map fun c hc => Remark.isWithin_ofComplaint (h c hc) top

/-- Whatever the checks have to say is full, and the level is a matter of the indentation. -/
theorem Profile.within_remarks (p : Profile) (top : Int) :
    p.AllRemarks (Gives (Remark.IsWithin top)) where
  comment _ := gives_ofComplaint (Check.full_comment _ _) top
  spelling _ _ := Gives.map fun v hv =>
    ⟨Check.full_spelling _ _ _ _ v hv, fun _ hl => by cases hl⟩
  operatorSpacing _ _ _ := gives_ofComplaint (Check.full_operatorSpacing _ _ _ _) top
  tracing := gives_ofComplaint (Check.full_tracing _) top
  declarationSpacing _ := gives_ofComplaint (Check.full_declarationSpacing _ _) top
  longLine _ := gives_ofComplaint (Check.full_longLine _ _) top
  emptyLines _ := gives_ofComplaint (Check.full_emptyLines _ _) top
  trailingBlank _ := gives_ofComplaint (Check.full_trailingBlank _ _) top
  missingComma := gives_ofComplaint (Check.full_missingComma _) top
  trailingComma := gives_ofComplaint (Check.full_trailingComma _) top

theorem within_indentRemark (p : Profile) (level : Int) (line : List Char) (shift : Int) :
    Gives (Remark.IsWithin (level + 1)) (indentRemark p level line shift) := by
  refine Gives.map fun v hv => ⟨?_, ?_⟩
  · cases v with
    | none => exact fullIfAny_none
    | some u => exact (Check.full_indentation _ _ _ _ _ hv u rfl).1
  · cases v with
    | none => exact fun _ hl => by cases hl
    | some u =>
      rintro _ ⟨⟩
      exact (Check.full_indentation _ _ _ _ _ hv u rfl).2

/-! ### Steps that leave the place alone -/

/-- A reading that has not moved on, and whose level has risen by no more than `rise`; all that it
may have said is about the current line. -/
structure Reading.Rests (rise : Nat) (r r' : Reading) : Prop where
  text : r'.text = r.text
  position : r'.position = r.position
  line : r'.line = r.line
  lineLength : r'.lineLength = r.lineLength
  level : r'.level ≤ r.level + rise
  warnings : ∃ ws, r'.warnings = ws ++ r.warnings ∧
    ∀ w ∈ ws, w.line = r.line ∧ w.complaint.IsFull

namespace Reading

variable {m n : Nat}

theorem Rests.refl (r : Reading) : r.Rests n r := ⟨rfl, rfl, rfl, rfl, by omega, [], rfl, by simp⟩

theorem Rests.trans {r r₁ r₂ : Reading} (h : r.Rests m r₁) (h' : r₁.Rests n r₂) :
    r.Rests (m + n) r₂ := by
  obtain ⟨ws, hws, hw⟩ := h.warnings
  obtain ⟨vs, hvs, hv⟩ := h'.warnings
  have hlevel := h.level
  have hlevel' := h'.level
  refine ⟨h'.text.trans h.text, h'.position.trans h.position, h'.line.trans h.line,
    h'.lineLength.trans h.lineLength, by omega, vs ++ ws, by rw [hvs, hws, List.append_assoc], ?_⟩
  intro w hmem
  rcases List.mem_append.1 hmem with hmem | hmem
  · exact ⟨(hv w hmem).1.trans h.line, (hv w hmem).2⟩
  · exact hw w hmem

/-- The place of a reading, its level and its warnings. -/
def spot (r : Reading) : List Char × Int × Nat × Nat × Int × List Warning :=
  (r.text, r.position, r.line, r.lineLength, r.level, r.warnings)

/-- A change that has nothing to do with the place. -/
theorem Rests.of_eq {r r' : Reading} (h : r'.spot = r.spot) : r.Rests n r' := by
  simp only [spot, Prod.mk.injEq] at h
  obtain ⟨ht, hp, hl, hn, hk, hw⟩ := h
  exact ⟨ht, hp, hl, hn, by omega, [], hw, by simp⟩

/-- A remark does not move the place. -/
theorem Rests.note {r₀ r : Reading} {m : Remark} (hr : r₀.Rests n r)
    (hm : m.IsWithin (r₀.level + n)) : r₀.Rests n (r.note m) := by
  obtain ⟨ws, hws, hw⟩ := hr.warnings
  have hlevel : m.level?.getD r.level ≤ r₀.level + n := by
    cases hl : m.level? with
    | none => exact hr.level
    | some level => exact hm.level level hl
  refine ⟨hr.text, hr.position, hr.line, hr.lineLength, hlevel,
    m.complaint?.toList.map (⟨·, r.line⟩) ++ ws, ?_, fun w hmem => ?_⟩
  · change _ ++ r.warnings = _
    rw [hws, List.append_assoc]
  · rcases List.mem_append.1 hmem with hmem | hmem
    · obtain ⟨c, hc, rfl⟩ := List.mem_map.1 hmem
      exact ⟨hr.line, hm.full c (Option.mem_toList.1 hc)⟩
    · exact hw w hmem

/-- A reading with another number of statements. -/
def recount (n : Nat) (r : Reading) : Reading := { r with statements := n }

end Reading

namespace Lint

variable {α β : Type} {n : Nat}

/-- The reading that an outcome leaves. -/
def left : EStateM.Result Fault Reading α → Reading
  | .ok _ r => r
  | .error _ r => r

/-- An outcome with another number of statements. -/
def recounted (n : Nat) : EStateM.Result Fault Reading α → EStateM.Result Fault Reading α
  | .ok a r => .ok a (r.recount n)
  | .error f r => .error f (r.recount n)

/-- A step that does not look at the number of statements. -/
def Blind (x : Lint α) : Prop := ∀ n r, x (r.recount n) = recounted n (x r)

/-- A step that leaves the place alone, raises the level by no more than `rise`, and does not look
at the number of statements. -/
structure Steady (rise : Nat) (x : Lint α) : Prop where
  rests : ∀ r : Reading, r.Rests rise (left (x r))
  blind : Blind x

/-! ### Blind steps -/

theorem blind_pure (a : α) : Blind (pure a : Lint α) := fun _ _ => rfl

theorem blind_modify {f : Reading → Reading} (hf : ∀ n r, f (r.recount n) = (f r).recount n) :
    Blind (modify f : Lint Unit) := fun n r => congrArg (EStateM.Result.ok ()) (hf n r)

theorem Blind.bind {x : Lint α} {f : α → Lint β} (hx : Blind x) (hf : ∀ a, Blind (f a)) :
    Blind (x >>= f) := by
  intro n r
  have hr := hx n r
  cases h : x r with
  | ok a r' =>
    rw [h] at hr
    rw [bind_of_ok h, bind_of_ok (show x (r.recount n) = .ok a (r'.recount n) from hr), hf a n r']
  | error e r' =>
    rw [h] at hr
    rw [bind_of_error h, bind_of_error (show x (r.recount n) = .error e (r'.recount n) from hr)]
    rfl

theorem blind_get_bind {f : Reading → Lint α} (hf : ∀ r, Blind (f r))
    (hn : ∀ n r, f (r.recount n) = f r) : Blind (get >>= f) := by
  intro n r
  rw [get_bind, get_bind, hn]
  exact hf r n r

theorem blind_make (vs : List (Except Fault Remark)) : Blind (make vs) := by
  intro n r
  induction vs generalizing r with
  | nil => rfl
  | cons v vs ih =>
    cases v with
    | error f => rfl
    | ok m => exact ih (r.note m)

theorem Blind.passMissing {x : Lint Unit} (hx : Blind x) : Blind (passMissing x) := by
  intro n r
  have hr := hx n r
  cases h : x r with
  | ok a r' =>
    rw [h] at hr
    rw [passMissing_of_ok h, passMissing_of_ok hr]
    rfl
  | error f r' =>
    rw [h] at hr
    by_cases hf : f = .missingKey
    · subst hf
      rw [passMissing_of_missingKey h, passMissing_of_missingKey hr]
      rfl
    · rw [passMissing_of_error h hf, passMissing_of_error hr hf]
      rfl

/-! ### Steady steps -/

theorem steady_pure (a : α) : Steady n (pure a : Lint α) := ⟨.refl, blind_pure a⟩

theorem steady_modify {f : Reading → Reading} (hf : ∀ r : Reading, r.Rests n (f r))
    (hn : ∀ n r, f (r.recount n) = (f r).recount n) : Steady n (modify f : Lint Unit) :=
  ⟨hf, blind_modify hn⟩

theorem Steady.bind {x : Lint α} {f : α → Lint β} (hx : Steady 0 x) (hf : ∀ a, Steady n (f a)) :
    Steady n (x >>= f) := by
  refine ⟨fun r => ?_, hx.blind.bind fun a => (hf a).blind⟩
  have hr := hx.rests r
  cases h : x r with
  | ok a r' =>
    rw [h] at hr
    rw [bind_of_ok h, ← Nat.zero_add n]
    exact hr.trans ((hf a).rests r')
  | error e r' =>
    rw [h] at hr
    rw [bind_of_error h, ← Nat.zero_add n]
    exact hr.trans (.refl r')

theorem steady_get_bind {f : Reading → Lint α} (hf : ∀ r, Steady n (f r))
    (hn : ∀ n r, f (r.recount n) = f r) : Steady n (get >>= f) :=
  ⟨fun r => (hf r).rests r, blind_get_bind (fun r => (hf r).blind) hn⟩

theorem Steady.of_ok {x : Lint α} {r r' : Reading} {a : α} (hx : Steady n x)
    (h : x r = .ok a r') : r.Rests n r' := by
  have hrests := hx.rests r
  rw [h] at hrests
  exact hrests

theorem rests_make {r₀ r : Reading} {vs : List (Except Fault Remark)} (hr : r₀.Rests n r)
    (h : ∀ v ∈ vs, Gives (Remark.IsWithin (r₀.level + n)) v) : r₀.Rests n (left (make vs r)) := by
  induction vs generalizing r with
  | nil => exact hr
  | cons v vs ih =>
    obtain ⟨hv, hvs⟩ := List.forall_mem_cons.1 h
    cases v with
    | error f => exact hr
    | ok m => exact ih (hr.note (hv m rfl)) hvs

theorem steady_make {vs : List (Except Fault Remark)}
    (h : ∀ top, ∀ v ∈ vs, Gives (Remark.IsWithin top) v) : Steady 0 (make vs) :=
  ⟨fun r => rests_make (.refl r) (h _), blind_make vs⟩

theorem left_passMissing (x : Lint Unit) (r : Reading) : left (passMissing x r) = left (x r) := by
  rcases passMissing_cases x r with h | ⟨r', h, hpass⟩
  · rw [h]
  · rw [h, hpass]
    rfl

theorem Steady.passMissing {x : Lint Unit} (hx : Steady n x) : Steady n (passMissing x) :=
  ⟨fun r => left_passMissing x r ▸ hx.rests r, hx.blind.passMissing⟩

end Lint

namespace Reading

open Lint Check

/-! ### Style checks -/

theorem steady_inspect (p : Profile) (t : Topic) (text : List Char) :
    Steady 0 (inspect p t text) := by
  have hmake (here : Place) : Steady 0 (make (t.remarks p text here)) :=
    steady_make fun top => (p.within_remarks top).topic t text
      (fun _ => Gives.map fun _ _ => ⟨fullIfAny_none, fun _ hl => by cases hl⟩)
      fun _ => Gives.map fun _ _ => ⟨fullIfAny_none, fun _ hl => by cases hl⟩
  refine ⟨fun r => ?_, fun n r => ?_⟩
  · rw [inspect_eq]
    exact (hmake r.place).rests r
  · rw [inspect_eq, inspect_eq]
    exact (hmake r.place).blind n r

theorem steady_inspectWord (p : Profile) (x : Lexeme) : Steady 0 (inspectWord p x) := by
  refine steady_get_bind (fun r => ?_) fun _ _ => rfl
  split
  · exact Steady.bind (steady_modify (fun _ => .of_eq rfl) fun _ _ => rfl) fun _ =>
      (steady_inspect p _ _).passMissing
  · exact steady_pure ()

theorem rests_counted (r : Reading) : r.Rests n r.counted := by
  rw [counted_eq]
  exact .of_eq rfl

theorem level_counted (r : Reading) : r.counted.level = r.level := by rw [counted_eq]

theorem within_lineEndRemarks (p : Profile) (r : Reading) :
    ∀ v ∈ r.lineEndRemarks p, Gives (Remark.IsWithin (r.level + 1)) v := by
  refine List.forall_mem_append.2 ⟨?_, ?_⟩
  · exact (p.within_remarks (r.level + 1)).line r.emptyLines fun f _ => fun _ he => by cases he
  · exact List.forall_mem_singleton.2 (within_indentRemark p r.level r.place.lastLine r.shift)

theorem steady_checkLine (p : Profile) : Steady 1 (checkLine p) := by
  refine ⟨fun r => ?_, fun n r => ?_⟩
  · rw [checkLine_eq]
    split
    · exact rests_make (rests_counted r) (level_counted r ▸ within_lineEndRemarks p r.counted)
    · exact .refl r
  · rw [checkLine_eq, checkLine_eq, show (r.recount n).isChecked = r.isChecked from rfl]
    split
    · exact blind_make _ n r.counted
    · rfl

/-! ### Brackets -/

theorem steady_addComma (p : Profile) : Steady 0 (addComma p) := by
  have hmake : Steady 0 (make [(findMissingComma p.settings).map .ofComplaint]) :=
    steady_make fun top => List.forall_mem_singleton.2 (p.within_remarks top).missingComma
  refine ⟨fun r => ?_, fun n r => ?_⟩
  · have hpush : r.Rests 0 (r.push (.addedComma r.line)) := .of_eq rfl
    rw [addComma_eq]
    split
    · exact .refl r
    · split
      · exact hpush.trans (hmake.rests _)
      · exact .refl r
  · rw [addComma_eq, addComma_eq, show (r.recount n).outline = r.outline from rfl]
    split
    · rfl
    · split
      · exact hmake.blind n (r.push (.addedComma r.line))
      · rfl

theorem steady_applyBoundary (p : Profile) (b : Boundary) : Steady 0 (applyBoundary p b) := by
  have hmake (o : Outline) : Steady 0 (make (b.remarks p o)) :=
    steady_make fun top => (p.within_remarks top).boundary b o
  have hwrite : Steady 0 (modify b.write) :=
    steady_modify (fun r => .of_eq (by cases b <;> rfl)) fun n r => by cases b <;> rfl
  refine ⟨fun r => ?_, fun n r => ?_⟩
  · rw [applyBoundary_eq]
    split
    · exact .refl r
    · exact ((hmake r.outline).bind fun _ => hwrite).rests r
  · rw [applyBoundary_eq, applyBoundary_eq, show (r.recount n).outline = r.outline from rfl,
      show (r.recount n).tokens = r.tokens from rfl]
    split
    · rfl
    · exact ((hmake r.outline).bind fun _ => hwrite).blind n r

theorem rests_settle (r : Reading) :
    r.Rests 0 (if r.isInside then { r with statementEnded := false } else r) := by
  split
  · exact .of_eq rfl
  · exact .refl r

theorem settle_recount (n : Nat) (r : Reading) :
    (if (r.recount n).isInside then { r.recount n with statementEnded := false } else r.recount n) =
      (if r.isInside then { r with statementEnded := false } else r).recount n := by
  rw [show (r.recount n).isInside = r.isInside from rfl]
  split <;> rfl

theorem steady_endLexeme (p : Profile) : Steady 0 (endLexeme p) := by
  have hsettle : Steady 0 (modify _) := steady_modify rests_settle settle_recount
  have hcheck : Steady 0 (checkBoundary p) := by
    refine steady_get_bind (fun r => ?_) fun _ _ => rfl
    split
    · exact hsettle
    · next b _ => exact (steady_applyBoundary p b).passMissing.bind fun _ => hsettle
  exact hcheck.bind fun _ => steady_get_bind (fun _ => steady_pure _) fun _ _ => rfl

/-! ### A lexeme -/

/-- What a lexeme does to the place, the level and the warnings of a reading. -/
structure Passes (x : Lexeme) (r r' : Reading) : Prop where
  text : r'.text = r.text
  position : r'.position = r.position + x.text.length
  lineLength : r'.lineLength = if x.kind = .newLine then 0 else r.lineLength + x.text.length
  level : r'.level ≤ r.level + if x.kind = .newLine then 1 else 0
  warnings : ∃ ws, r'.warnings = ws ++ r.warnings ∧
    ∀ w ∈ ws, w.line = r.line ∧ w.complaint.IsFull

theorem blind_endLine (p : Profile) : Blind (endLine p) :=
  (blind_modify fun _ _ => rfl).bind fun _ => (steady_checkLine p).blind.bind fun _ =>
    (steady_addComma p).blind.bind fun _ => blind_modify fun _ _ => rfl

theorem countFunction_recount (k : Kind) (n : Nat) (r : Reading) :
    countFunction k (r.recount n) = (countFunction k r).recount n := by
  unfold countFunction
  rw [show (r.recount n).openCurly = r.openCurly from rfl]
  split
  · rfl
  · cases k <;> rfl

theorem rests_countFunction (k : Kind) (r : Reading) : r.Rests 0 (countFunction k r) := by
  unfold countFunction
  split
  · exact .refl r
  · cases k <;> exact .of_eq rfl

theorem steady_addToken (x : Lexeme) : Steady 0 (addToken x) := by
  unfold addToken
  cases x.token? with
  | none => exact steady_pure ()
  | some t => exact steady_modify (fun _ => .of_eq rfl) fun _ _ => rfl

/-- The part of a directive or a word that leaves the place alone. -/
theorem steady_directive (p : Profile) (x : Lexeme) (command : String) :
    Steady 0 (do
      modify fun r => { r with topic := some (.directive command) }
      passMissing (inspect p (.directive command) x.text) : Lint Unit) :=
  Steady.bind (steady_modify (fun _ => .of_eq rfl) fun _ _ => rfl) fun _ =>
    (steady_inspect p _ _).passMissing

theorem steady_word (p : Profile) (x : Lexeme) :
    Steady 0 (do modify (countFunction x.kind); inspectWord p x; addToken x : Lint Unit) :=
  Steady.bind (steady_modify (rests_countFunction x.kind) (countFunction_recount x.kind)) fun _ =>
    (steady_inspectWord p x).bind fun _ => steady_addToken x

theorem blind_advance (p : Profile) (x : Lexeme) : Blind (advance p x) := by
  have hmove : Blind (modify (moveOver x)) := blind_modify fun _ _ => rfl
  have hturn : Blind (modify (turnTo x)) := blind_modify fun _ _ => rfl
  by_cases hx : x.kind = .blank
  · rw [advance_of_blank p hx]
    exact hmove.bind fun _ => blind_pure _
  · rw [advance_of_ne p hx]
    refine Blind.bind ?_ fun _ => (steady_endLexeme p).blind
    unfold takeIn
    refine hmove.bind fun _ => hturn.bind fun _ => ?_
    cases x.role with
    | lineEnd => exact blind_endLine p
    | directive command => exact (steady_directive p x command).blind
    | word => exact (steady_word p x).blind

/-- The end of a line leaves the place alone until the line is counted. -/
theorem endLine_ok {p : Profile} {r r' : Reading} (h : endLine p r = .ok () r') :
    ∃ r₁, r.Rests 1 r₁ ∧ r' = { r₁ with line := r₁.line + 1, lineLength := 0 } := by
  obtain ⟨⟨⟩, r₁, hcheck, h⟩ := bind_ok (s := { r with statementEnded := true }) h
  obtain ⟨⟨⟩, r₂, hcomma, h⟩ := bind_ok h
  cases h
  have hmark : r.Rests 0 { r with statementEnded := true } := .of_eq rfl
  have hrests := (hmark.trans ((steady_checkLine p).of_ok hcheck)).trans
    ((steady_addComma p).of_ok hcomma)
  exact ⟨r₂, hrests, rfl⟩

/-- A lexeme that means nothing for brackets leaves it at that. -/
theorem endLexeme_of_none {p : Profile} {r r' : Reading} {b : Bool}
    (hr : r.topic.bind Topic.boundary? = none) (h : endLexeme p r = .ok b r') :
    r' = if r.isInside then { r with statementEnded := false } else r := by
  have hcheck : checkBoundary p r =
      .ok () (if r.isInside then { r with statementEnded := false } else r) := by
    rw [checkBoundary, get_bind, hr]
    rfl
  unfold endLexeme at h
  rw [bind_of_ok hcheck] at h
  cases h
  rfl

theorem role_of_newLine {x : Lexeme} (h : x.kind = .newLine) : x.role = .lineEnd := by
  unfold Lexeme.role
  rw [h]

theorem kind_of_word {x : Lexeme} (h : x.role = .word) : x.kind ≠ .newLine := fun hk => by
  rw [role_of_newLine hk] at h
  cases h

theorem role_of_ne {x : Lexeme} (h : x.kind ≠ .newLine) : x.role ≠ .lineEnd :=
  fun hrole => h (x.kind_of_lineEnd hrole)

/-- The end of a line is over before the next line can be warned of. -/
theorem passes_lineEnd {p : Profile} {x : Lexeme} {r r' : Reading} {b : Bool}
    (hx : x.kind = .newLine)
    (h : (do endLine p; endLexeme p : Lint Bool) (turnTo x (moveOver x r)) = .ok b r') :
    Passes x r r' := by
  obtain ⟨⟨⟩, r₁, hline, hend⟩ := bind_ok h
  have htopic : r₁.topic = some (.kind .newLine) := by
    have hout := steps_endLine p (turnTo x (moveOver x r))
    rw [hline] at hout
    have htopic := congrArg Outline.topic (show r₁.outline = _ from hout)
    rw [Outline.topic_endLine] at htopic
    rw [← hx]
    exact htopic
  have hr' := endLexeme_of_none (by rw [htopic]; rfl) hend
  obtain ⟨r₂, hrests, rfl⟩ := endLine_ok hline
  obtain ⟨ht, hp, -, -, hk, hw⟩ := hrests
  rw [hr']
  refine ⟨?_, ?_, ?_, ?_, ?_⟩
  · split <;> exact ht
  · split <;> exact hp
  · rw [if_pos hx]
    split <;> rfl
  · rw [if_pos hx]
    split <;> exact hk
  · split <;> exact hw

/-- **A lexeme** moves the place over its text, and warns of the line on which it starts. -/
theorem passes_advance {p : Profile} {x : Lexeme} {r r' : Reading} {b : Bool}
    (h : advance p x r = .ok b r') : Passes x r r' := by
  by_cases hblank : x.kind = .blank
  · rw [advance_of_blank p hblank] at h
    cases h
    have hkind : x.kind ≠ .newLine := by
      rw [hblank]
      decide
    refine ⟨rfl, rfl, ?_, ?_, [], rfl, by simp⟩ <;> rw [if_neg hkind]
    · rfl
    · exact Int.le_of_eq (Int.add_zero _).symm
  rw [advance_of_ne p hblank] at h
  unfold takeIn at h
  simp only [bind_assoc] at h
  by_cases hx : x.kind = .newLine
  · rw [role_of_newLine hx] at h
    exact passes_lineEnd hx h
  · -- a directive or a word: nothing moves after the place was moved over the lexeme
    have hrests : (turnTo x (moveOver x r)).Rests 0 r' := by
      cases hrole : x.role with
      | lineEnd => exact absurd hrole (role_of_ne hx)
      | directive command =>
        rw [hrole] at h
        exact ((steady_directive p x command).bind fun _ => steady_endLexeme p).of_ok h
      | word =>
        rw [hrole] at h
        exact ((steady_word p x).bind fun _ => steady_endLexeme p).of_ok h
    obtain ⟨ht, hp, -, hn, hk, hw⟩ := hrests
    refine ⟨ht, hp, ?_, ?_, hw⟩ <;> rw [if_neg hx]
    · exact hn
    · exact hk

end Reading

end BrightLint
