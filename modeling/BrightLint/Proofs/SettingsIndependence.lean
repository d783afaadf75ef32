import BrightLint.Proofs.ParsingOutcome

/-!
Settings and dictionaries are about style. They decide which warnings there are, and whether a
reading comes to its end at all; but two readings of one text that do come to their ends have read
the same code, and so have two parsings. There is one exception: where the entry for commas before
closing brackets is there but does not say whether it is active, such commas are not dropped.

* `Accord`: two outcomes that come to the same
* `Reading.SameCode`, `Reading.accord_readLexeme`: two readings, lexeme by lexeme
* `Parsing.Aloof`: a step of a parsing that has nothing to do with the reading
* `Parsing.SameCode`, `Parsing.accord_readLexeme`: two parsings, lexeme by lexeme
* `settings_independent`: whole texts
-/

namespace BrightLint

/-! ### The exception -/

/-- Whether the entry for commas before closing brackets, if there is one, says that it is active or
that it is not. -/
def Settings.tellsTrailingComma (s : Settings) : Bool :=
  match s.entry? (.str Check.trailingComma.key) with
  | .ok (some (.obj fields)) => (Json.field? fields "active").isSome
  | _ => true

theorem Settings.entry?_ne_missingKey (s : Settings) (key : Json) :
    s.entry? key ≠ .error .missingKey := by
  unfold entry?
  repeat' split
  all_goals exact fun h => by cases h

theorem Settings.activity_ne_missingKey {s : Settings} (h : s.tellsTrailingComma = true) :
    s.activity (.str Check.trailingComma.key) ≠ .error .missingKey := by
  unfold tellsTrailingComma at h
  unfold activity
  cases hentry : s.entry? (.str Check.trailingComma.key) with
  | error f =>
    rintro hf
    cases hf
    exact entry?_ne_missingKey _ _ hentry
  | ok entry =>
    rw [hentry] at h
    rcases entry with _ | entry
    · exact fun hf => by cases hf
    · cases entry with
      | obj fields =>
        obtain ⟨v, hv⟩ := Option.isSome_iff_exists.1 h
        change Json.get "active" (.obj fields) ≠ _
        rw [Json.get, hv]
        exact fun hf => by cases hf
      | _ => exact fun hf => by cases hf

theorem Profile.isLax_eq_false {p : Profile} (h : p.settings.tellsTrailingComma = true) :
    p.isLax = false := by
  unfold isLax Check.findTrailingComma whenActive Settings.isActive
  cases hv : p.settings.activity (.str Check.trailingComma.key) with
  | ok v =>
    simp only [Except.map, bind, Except.bind]
    cases v.isTrue <;> rfl
  | error f =>
    cases f with
    | missingKey => exact absurd hv (Settings.activity_ne_missingKey h)
    | _ => rfl

/-! ### Two outcomes -/

section Accord

variable {σ α β : Type} {R : σ → σ → Prop} {s s' : σ}

/-- Two outcomes that come to the same: both are values or both are faults, the same ones, and the
states are related. Nothing is said if there is a fault that is no verdict on the code. -/
def Accord (R : σ → σ → Prop) (res res' : EStateM.Result Fault σ α) : Prop :=
  (∃ a s s', res = .ok a s ∧ res' = .ok a s' ∧ R s s') ∨
    (∃ f s s', res = .error f s ∧ res' = .error f s' ∧ R s s') ∨ Upset res ∨ Upset res'

theorem Accord.bind {x x' : EStateM Fault σ α} {f f' : α → EStateM Fault σ β}
    (h : Accord R (x s) (x' s')) (hf : ∀ a t t', R t t' → Accord R (f a t) (f' a t')) :
    Accord R ((x >>= f) s) ((x' >>= f') s') := by
  rcases h with ⟨a, t, t', hx, hx', hR⟩ | ⟨e, t, t', hx, hx', hR⟩ | hx | hx'
  · rw [bind_of_ok hx, bind_of_ok hx']
    exact hf a t t' hR
  · exact .inr (.inl ⟨e, t, t', bind_of_error hx, bind_of_error hx', hR⟩)
  · exact .inr (.inr (.inl hx.bind))
  · exact .inr (.inr (.inr hx'.bind))

theorem accord_pure (a : α) (h : R s s') :
    Accord R ((pure a : EStateM Fault σ α) s) ((pure a : EStateM Fault σ α) s') :=
  .inl ⟨a, s, s', rfl, rfl, h⟩

theorem accord_modify {g : σ → σ} (h : R (g s) (g s')) :
    Accord R ((modify g : EStateM Fault σ Unit) s) ((modify g : EStateM Fault σ Unit) s') :=
  .inl ⟨(), g s, g s', rfl, rfl, h⟩

/-- Two loops over the same items come to the same if their rounds do. -/
theorem accord_forM {f f' : β → EStateM Fault σ Unit} (xs : List β)
    (hstep : ∀ x t t', R t t' → Accord R (f x t) (f' x t')) (h : R s s') :
    Accord R (xs.forM f s) (xs.forM f' s') := by
  induction xs generalizing s s' with
  | nil => exact accord_pure _ h
  | cons x xs ih => exact (hstep x s s' h).bind fun _ t t' ht => ih ht

theorem Accord.of_ok {a a' : α} (h : Accord R (.ok a s) (.ok a' s')) : R s s' := by
  rcases h with ⟨_, _, _, hx, hx', hR⟩ | ⟨_, _, _, hx, -⟩ | ⟨_, _, hx, -⟩ | ⟨_, _, hx, -⟩
  · cases hx
    cases hx'
    exact hR
  · cases hx
  · cases hx
  · cases hx

end Accord

/-! ### Two readings -/

namespace Lint

/-- A step that does not look at the number of statements does not change it either. -/
theorem Blind.statements {α : Type} {x : Lint α} {r r' : Reading} {a : α} (hx : Blind x)
    (h : x r = .ok a r') : r'.statements = r.statements := by
  have hsame : x r = recounted r.statements (x r) := hx r.statements r
  rw [h] at hsame
  rw [(EStateM.Result.ok.inj hsame).2]
  rfl

end Lint

namespace Reading

open Lint

/-- The readings have read the same code of the same text. -/
structure SameCode (r r' : Reading) : Prop where
  text : r'.text = r.text
  position : r'.position = r.position
  outline : r'.outline = r.outline
  statements : r'.statements = r.statements

variable {p q : Profile} {r r' : Reading}

/-- Two steps that leave the same outline, if they end well, and then agree in the rest. -/
theorem accord_of_yields {α : Type} {x y : Lint α} {o : Outline} (hx : Yields o (x r))
    (hy : Yields o (y r'))
    (h : ∀ a t a' t', x r = .ok a t → y r' = .ok a' t' → t'.outline = t.outline →
      a' = a ∧ t'.text = t.text ∧ t'.position = t.position ∧ t'.statements = t.statements) :
    Accord SameCode (x r) (y r') := by
  cases hxr : x r with
  | error f t =>
    rw [hxr] at hx
    exact .inr (.inr (.inl ⟨f, t, rfl, hx⟩))
  | ok a t =>
    cases hyr : y r' with
    | error f t' =>
      rw [hyr] at hy
      exact .inr (.inr (.inr ⟨f, t', rfl, hy⟩))
    | ok a' t' =>
      rw [hxr] at hx
      rw [hyr] at hy
      have houtline : t'.outline = t.outline := hy.trans hx.symm
      obtain ⟨rfl, htext, hposition, hstatements⟩ := h a t a' t' hxr hyr houtline
      exact .inl ⟨a', t, t', rfl, rfl, htext, hposition, houtline, hstatements⟩

theorem accord_checkLine (p q : Profile) (h : r.SameCode r') :
    Accord SameCode (checkLine p r) (checkLine q r') := by
  have hq := (keeps_checkLine q).steps r'
  rw [h.outline] at hq
  refine accord_of_yields ((keeps_checkLine p).steps r) hq fun _ t _ t' ht ht' _ => ?_
  have hrests := (steady_checkLine p).of_ok ht
  have hrests' := (steady_checkLine q).of_ok ht'
  refine ⟨rfl, ?_, ?_, ?_⟩
  · rw [hrests.text, hrests'.text, h.text]
  · rw [hrests.position, hrests'.position, h.position]
  · rw [(steady_checkLine p).blind.statements ht, (steady_checkLine q).blind.statements ht',
      h.statements]

theorem accord_advance (hpq : p.isLax = q.isLax) (x : Lexeme) (h : r.SameCode r') :
    Accord SameCode (advance p x r) (advance q x r') := by
  have hq := steps_advance q x r'
  rw [h.outline, ← hpq] at hq
  refine accord_of_yields (steps_advance p x r) hq fun a t a' t' ht ht' houtline => ?_
  have hended : t'.statementEnded = t.statementEnded := congrArg Outline.statementEnded houtline
  have hpass := passes_advance ht
  have hpass' := passes_advance ht'
  refine ⟨?_, ?_, ?_, ?_⟩
  · rw [advance_ended ht, advance_ended ht', hended]
  · rw [hpass.text, hpass'.text, h.text]
  · rw [hpass.position, hpass'.position, h.position]
  · rw [(blind_advance p x).statements ht, (blind_advance q x).statements ht', h.statements]

theorem SameCode.beginStatement (h : r.SameCode r') : r.beginStatement.SameCode r'.beginStatement :=
  ⟨h.text, h.position, congrArg Outline.beginStatement h.outline, h.statements⟩

/-- **One lexeme**, with the statement that it may end. -/
theorem accord_readLexeme (hpq : p.isLax = q.isLax) (x : Lexeme) (h : r.SameCode r') :
    Accord SameCode (readLexeme p x r) (readLexeme q x r') := by
  refine (accord_advance hpq x h).bind fun ended t t' ht => ?_
  cases ended with
  | false => exact accord_pure () ht
  | true =>
    have hcount : Accord SameCode
        ((modify fun r => { r with statements := r.statements + 1 } : Lint Unit) t)
        ((modify fun r => { r with statements := r.statements + 1 } : Lint Unit) t') :=
      accord_modify ⟨ht.text, ht.position, ht.outline, congrArg (· + 1) ht.statements⟩
    exact hcount.bind fun _ u u' hu => accord_modify hu.beginStatement

theorem outline_recordUnmatched (r : Reading) :
    r.recordUnmatched.outline = { r.outline with
      problems := r.outline.problems ++
        [.unmatchedQuote (String.ofList (Text.firstLine r.rest)) r.outline.line] } := rfl

theorem SameCode.recordUnmatched (h : r.SameCode r') :
    r.recordUnmatched.SameCode r'.recordUnmatched := by
  have hrest : r'.rest = r.rest := by
    rw [Layout.rest, Layout.rest, h.text, h.position]
  refine ⟨h.text, h.position, ?_, h.statements⟩
  rw [outline_recordUnmatched, outline_recordUnmatched, h.outline, hrest]

/-- The end of a text. -/
theorem accord_finish (p q : Profile) (rest : List Char) (h : r.SameCode r') :
    Accord SameCode (finish p rest r) (finish q rest r') := by
  have hrecord : (if rest.isEmpty then r else r.recordUnmatched).SameCode
      (if rest.isEmpty then r' else r'.recordUnmatched) := by
    split
    · exact h
    · exact h.recordUnmatched
  rw [finish_eq, finish_eq]
  refine (accord_checkLine p q hrecord).bind fun _ t t' ht => ?_
  exact accord_modify ⟨ht.text, ht.position, ht.outline, congrArg (· + 1) ht.statements⟩

end Reading

/-! ### Steps that have nothing to do with the reading -/

namespace Parsing

section Aloof

variable {α β : Type}

/-- A parsing with another reading. -/
def on (r : Reading) (s : Parsing) : Parsing := { s with reading := r }

/-- An outcome with another reading. -/
def onto (r : Reading) : EStateM.Result Fault Parsing α → EStateM.Result Fault Parsing α
  | .ok a s => .ok a (s.on r)
  | .error f s => .error f (s.on r)

/-- A step of a parsing that neither looks at the reading nor changes it. -/
def Aloof (x : Parse α) : Prop := ∀ r s, x (s.on r) = onto r (x s)

theorem Aloof.bind {x : Parse α} {f : α → Parse β} (hx : Aloof x) (hf : ∀ a, Aloof (f a)) :
    Aloof (x >>= f) := by
  intro r s
  have hr := hx r s
  cases h : x s with
  | ok a t =>
    rw [h] at hr
    rw [bind_of_ok h, bind_of_ok (show x (s.on r) = .ok a (t.on r) from hr), hf a r t]
  | error e t =>
    rw [h] at hr
    rw [bind_of_error h, bind_of_error (show x (s.on r) = .error e (t.on r) from hr)]
    rfl

theorem record_on (steps : List (List Symbol)) (r : Reading) (s : Parsing) :
    record steps (s.on r) = (record steps s).on r := by
  unfold record
  rw [show (s.on r).onProgram = s.onProgram from rfl]
  split <;> rfl

theorem aloof_modify {g : Parsing → Parsing} (hg : ∀ r s, g (s.on r) = (g s).on r) :
    Aloof (modify g : Parse Unit) := fun r s => congrArg (EStateM.Result.ok ()) (hg r s)

theorem aloof_checkStatement (types : List Symbol) : Aloof (checkStatement types) := by
  intro r s
  unfold checkStatement
  simp only [show (s.on r).bench = s.bench from rfl]
  cases s.bench.check types with
  | ok x b =>
    let t : Parsing := { s with isStarted := true, bench := b, program := s.program ++ x.toList }
    change EStateM.Result.ok () (note types
      (.ok ((record b.steps (t.on r)).program.length, b.grammar)) (record b.steps (t.on r))) = _
    rw [record_on]
    rfl
  | error f b =>
    let t : Parsing := { s with isStarted := true, bench := b }
    change EStateM.Result.error f (note types (.error f) (record b.steps (t.on r))) = _
    rw [record_on]
    rfl

theorem aloof_checkProgram : Aloof checkProgram := by
  intro r s
  unfold checkProgram
  simp only [show (s.on r).current = s.current from rfl]
  have hrecord := record_on (reduceProgram s.current).steps r { s with
    program := (reduceProgram s.current).final, bench := { s.bench with grammar := .program } }
  split
  · rfl
  · split
    · exact congrArg (EStateM.Result.ok true) hrecord
    · exact congrArg (EStateM.Result.error (Fault.unparsed .program)) hrecord

theorem Aloof.tryCatch {x : Parse α} {handler : Fault → Parse α} (hx : Aloof x)
    (hf : ∀ f, Aloof (handler f)) : Aloof (tryCatch x handler) := by
  intro r s
  have hr := hx r s
  cases h : x s with
  | ok a t =>
    rw [h] at hr
    rw [tryCatch_of_ok h, tryCatch_of_ok (show x (s.on r) = .ok a (t.on r) from hr)]
    rfl
  | error e t =>
    rw [h] at hr
    rw [tryCatch_of_error h, tryCatch_of_error (show x (s.on r) = .error e (t.on r) from hr),
      hf e r t]

/-- The check of the last statement is aloof once the symbols of the statement are given. -/
def checkLastOf (types : List Symbol) : Parse Unit :=
  tryCatch (checkStatement types) fun
    | .unparsed _ => modify fun s => { s with program := s.program ++ s.current }
    | f => throw f

theorem checkLast_eq (s : Parsing) :
    checkLast s = checkLastOf (s.reading.statement.map Token.symbol) s := rfl

theorem aloof_checkLastOf (types : List Symbol) : Aloof (checkLastOf types) := by
  refine (aloof_checkStatement types).tryCatch fun f => ?_
  cases f with
  | unparsed stage => exact aloof_modify fun _ _ => rfl
  | _ => exact fun _ _ => rfl

end Aloof

/-! ### Two parsings -/

section SameCode

variable {α : Type} {p q : Profile} {s s' : Parsing}

/-- The parsings have read the same code, and agree in all but the reading. -/
structure SameCode (s s' : Parsing) : Prop where
  reading : s.reading.SameCode s'.reading
  others : s' = s.on s'.reading

theorem Aloof.accord {x : Parse α} (hx : Aloof x) (h : s.SameCode s') :
    Accord SameCode (x s) (x s') := by
  have hsame : x s = onto s.reading (x s) := hx s.reading s
  have hother : x s' = onto s'.reading (x s) := by
    rw [← hx, ← h.others]
  cases hs : x s with
  | ok a t =>
    rw [hs] at hsame hother
    have ht : t.reading = s.reading := by
      rw [(EStateM.Result.ok.inj hsame).2]
      rfl
    exact .inl ⟨a, t, t.on s'.reading, rfl, hother, ht ▸ h.reading, rfl⟩
  | error f t =>
    rw [hs] at hsame hother
    have ht : t.reading = s.reading := by
      rw [(EStateM.Result.error.inj hsame).2]
      rfl
    exact .inr (.inl ⟨f, t, t.on s'.reading, rfl, hother, ht ▸ h.reading, rfl⟩)

/-- A step of the reading leaves everything else alone. -/
theorem accord_asParse {x y : Lint α} (hs : s' = s.on s'.reading)
    (h : Accord Reading.SameCode (x s.reading) (y s'.reading)) :
    Accord SameCode (x.asParse s) (y.asParse s') := by
  have hon : ∀ r, { s' with reading := r } = { s with reading := r : Parsing } := by
    intro r
    rw [hs]
    rfl
  rcases h with ⟨a, r, r', hx, hy, hr⟩ | ⟨f, r, r', hx, hy, hr⟩ | ⟨f, r, hx, hf⟩ | ⟨f, r, hy, hf⟩
  · exact .inl ⟨a, _, _, asParse_of_ok hx, asParse_of_ok hy, hr, hon r'⟩
  · exact .inr (.inl ⟨f, _, _, asParse_of_error hx, asParse_of_error hy, hr, hon r'⟩)
  · exact .inr (.inr (.inl ⟨f, _, asParse_of_error hx, hf⟩))
  · exact .inr (.inr (.inr ⟨f, _, asParse_of_error hy, hf⟩))

theorem SameCode.statement (h : s.SameCode s') : s'.reading.statement = s.reading.statement :=
  congrArg Outline.statement h.reading.outline

theorem SameCode.beginStatement (h : s.SameCode s') :
    SameCode { s with reading := s.reading.beginStatement }
      { s' with reading := s'.reading.beginStatement } := by
  refine ⟨h.reading.beginStatement, ?_⟩
  rw [h.others]
  rfl

/-- **One lexeme**, with the check of the statement that it may end. -/
theorem accord_readLexeme (hpq : p.isLax = q.isLax) (x : Lexeme) (h : s.SameCode s') :
    Accord SameCode (readLexeme p x s) (readLexeme q x s') := by
  refine (accord_asParse h.others (Reading.accord_advance hpq x h.reading)).bind
    fun ended t t' ht => ?_
  cases ended with
  | false => exact accord_pure () ht
  | true =>
    change Accord SameCode
      ((do checkStatement (t.reading.statement.map Token.symbol); modify _ : Parse Unit) t)
      ((do checkStatement (t'.reading.statement.map Token.symbol); modify _ : Parse Unit) t')
    rw [ht.statement]
    exact ((aloof_checkStatement _).accord ht).bind fun _ u u' hu => accord_modify hu.beginStatement

theorem accord_conclude (h : s.SameCode s') : Accord SameCode (conclude s) (conclude s') := by
  have hproblems : s'.reading.problems = s.reading.problems :=
    congrArg Outline.problems h.reading.outline
  by_cases hnone : s.reading.problems = []
  · rw [conclude_of_none hnone, conclude_of_none (hproblems.trans hnone)]
    have hlast : Accord SameCode (checkLast s) (checkLast s') := by
      rw [checkLast_eq, checkLast_eq, h.statement]
      exact (aloof_checkLastOf _).accord h
    refine hlast.bind fun _ t t' ht => Aloof.accord ?_ ht
    exact (aloof_modify fun _ _ => rfl).bind fun _ => aloof_checkProgram.bind fun _ _ _ => rfl
  · rw [conclude_of_problems hnone, conclude_of_problems (hproblems ▸ hnone)]
    exact accord_pure () h

theorem SameCode.recordUnparsed (stage : Stage) (h : s.SameCode s') :
    (recordUnparsed stage s).SameCode (recordUnparsed stage s') := by
  have houtline : ∀ s : Parsing, (Parsing.recordUnparsed stage s).reading.outline =
      { s.reading.outline with problems := s.reading.outline.problems ++
        [.unparsed stage (s.reading.outline.line - 1)] } := fun _ => rfl
  refine ⟨⟨h.reading.text, h.reading.position, ?_, h.reading.statements⟩, ?_⟩
  · rw [houtline, houtline, h.reading.outline]
  · rw [h.others]
    rfl

/-- Outcomes that come to the same give the same parsing. -/
theorem Returns.sameCode {res res' : EStateM.Result Fault Parsing Unit} (hs : Returns res s)
    (hs' : Returns res' s') (h : Accord SameCode res res') : s.SameCode s' := by
  rcases h with ⟨⟨⟩, t, t', rfl, rfl, ht⟩ | ⟨f, t, t', rfl, rfl, ht⟩ | hup | hup
  · rcases hs with hs | ⟨_, _, hs, -⟩ <;> cases hs
    rcases hs' with hs' | ⟨_, _, hs', -⟩ <;> cases hs'
    exact ht
  · rcases hs with hs | ⟨stage, _, hs, rfl⟩ <;> cases hs
    rcases hs' with hs' | ⟨_, _, hs', rfl⟩ <;> cases hs'
    exact ht.recordUnparsed stage
  · exact absurd hup hs.not_upset
  · exact absurd hup hs'.not_upset

end SameCode

end Parsing

/-! ### Whole texts -/

section Texts

variable {p q : Profile} {text : List Char}

theorem Reading.sameCode_read {r r' : Reading} (hpq : p.isLax = q.isLax)
    (hr : (read p text).run fresh = .ok () r) (hr' : (read q text).run fresh = .ok () r') :
    r.SameCode r' := by
  have haccord : Accord SameCode
      ((do (scan text).1.forM (readLexeme p); finish p (scan text).2 : Lint Unit)
        (fresh.start text))
      ((do (scan text).1.forM (readLexeme q); finish q (scan text).2 : Lint Unit)
        (fresh.start text)) :=
    (accord_forM _ (fun x _ _ => accord_readLexeme hpq x) ⟨rfl, rfl, rfl, rfl⟩).bind
      fun _ _ _ => accord_finish p q _
  have haccord : Accord SameCode ((read p text).run fresh) ((read q text).run fresh) := haccord
  rw [hr, hr'] at haccord
  exact haccord.of_ok

theorem Parsing.sameCode_parse {s s' : Parsing} (hpq : p.isLax = q.isLax)
    (hs : (parse p text).run {} = .ok () s) (hs' : (parse q text).run {} = .ok () s') :
    s.SameCode s' := by
  refine (parse_returns hs).sameCode (parse_returns hs') ?_
  refine (accord_forM _ (fun x _ _ => accord_readLexeme hpq x) ⟨⟨rfl, rfl, rfl, rfl⟩, rfl⟩).bind
    fun _ t t' ht => ?_
  exact (accord_asParse ht.others (Reading.accord_finish p q _ ht.reading)).bind
    fun _ _ _ => accord_conclude

/-- **Settings and dictionaries never influence what is read or parsed.** Two readings of a text
that both return have the same problems, tokens, statements and open brackets, and two parsings the
same problems, tokens, program and reductions. -/
theorem settings_independent (p q : Profile) (text : List Char)
    (hp : p.settings.tellsTrailingComma = true) (hq : q.settings.tellsTrailingComma = true) :
    (∀ r r', (Reading.read p text).run .fresh = .ok () r →
      (Reading.read q text).run .fresh = .ok () r' →
      r'.problems = r.problems ∧ r'.tokens = r.tokens ∧ r'.statements = r.statements ∧
        r'.openCurly = r.openCurly ∧ r'.openSquare = r.openSquare ∧
        r'.openFunction = r.openFunction ∧ r'.inObject = r.inObject) ∧
    ∀ s s', (Parsing.parse p text).run {} = .ok () s → (Parsing.parse q text).run {} = .ok () s' →
      s'.reading.problems = s.reading.problems ∧ s'.reading.tokens = s.reading.tokens ∧
        s'.program = s.program ∧ s'.statementSteps = s.statementSteps ∧
        s'.programSteps = s.programSteps := by
  have hpq : p.isLax = q.isLax :=
    (Profile.isLax_eq_false hp).trans (Profile.isLax_eq_false hq).symm
  constructor
  · intro r r' hr hr'
    obtain ⟨-, -, houtline, hstatements⟩ := Reading.sameCode_read hpq hr hr'
    exact ⟨congrArg Outline.problems houtline, congrArg Outline.tokens houtline, hstatements,
      congrArg Outline.openCurly houtline, congrArg Outline.openSquare houtline,
      congrArg Outline.openFunction houtline, congrArg Outline.inObject houtline⟩
  · intro s s' hs hs'
    obtain ⟨⟨-, -, houtline, -⟩, hothers⟩ := Parsing.sameCode_parse hpq hs hs'
    refine ⟨congrArg Outline.problems houtline, congrArg Outline.tokens houtline, ?_⟩
    rw [hothers]
    exact ⟨rfl, rfl, rfl⟩

end Texts

/-- An object that ends in a comma, and a line that is printed. -/
def commaBeforeBracket : List Char := "x = \x7ba: 1,\n\x7d\nprint x\n".toList

/-- Without settings there are no warnings, but the code is the same. -/
theorem settings_independent_commaBeforeBracket :
    ∃ r r' s s',
      (Reading.read Parsing.sampleProfile commaBeforeBracket).run .fresh = .ok () r ∧
      (Reading.read ⟨.obj [], fun _ => false⟩ commaBeforeBracket).run .fresh = .ok () r' ∧
      (Parsing.parse Parsing.sampleProfile commaBeforeBracket).run {} = .ok () s ∧
      (Parsing.parse ⟨.obj [], fun _ => false⟩ commaBeforeBracket).run {} = .ok () s' ∧
      r.warnings.length = 2 ∧ r'.warnings.length = 0 ∧ r'.tokens = r.tokens ∧
      s'.program = s.program := by
  have hread : Reading.returnsWith Parsing.sampleProfile commaBeforeBracket
      (·.warnings.length == 2) = true := by
    decide +kernel
  have hread' : Reading.returnsWith ⟨.obj [], fun _ => false⟩ commaBeforeBracket
      (·.warnings.length == 0) = true := by
    decide +kernel
  have hparse : Parsing.returnsWith Parsing.sampleProfile commaBeforeBracket
      (fun _ => true) = true := by
    decide +kernel
  have hparse' : Parsing.returnsWith ⟨.obj [], fun _ => false⟩ commaBeforeBracket
      (fun _ => true) = true := by
    decide +kernel
  obtain ⟨r, hr, htwo⟩ := Reading.exists_of_returnsWith hread
  obtain ⟨r', hr', hnone⟩ := Reading.exists_of_returnsWith hread'
  obtain ⟨s, hs, -⟩ := Parsing.exists_of_returnsWith hparse
  obtain ⟨s', hs', -⟩ := Parsing.exists_of_returnsWith hparse'
  obtain ⟨hreadings, hparsings⟩ := settings_independent Parsing.sampleProfile
    ⟨.obj [], fun _ => false⟩ commaBeforeBracket (by decide +kernel) (by decide +kernel)
  exact ⟨r, r', s, s', hr, hr', hs, hs', beq_iff_eq.1 htwo, beq_iff_eq.1 hnone,
    (hreadings r r' hr hr').2.1, (hparsings s s' hs hs').2.2.1⟩

end BrightLint
