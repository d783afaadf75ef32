import BrightLint.Proofs.Acceptance
import BrightLint.Proofs.Traversal

/-!
How the parsing of a text returns. The lexemes are read one after the other, and then the parsing
closes: the end of the text ends the last statement, and what the statements were reduced to is
reduced to a program. The last statement is checked in another way than all before it: if it cannot
be reduced, it is left to the program as far as it was reduced.

* `Upset`: outcomes that are no verdict on the code
* `Parsing.RecordsNone`: steps that record no problem
* `Parsing.acceptsLast`: whether what was read, with a last statement, is a program
* `Parsing.Returns`: the parsing that is returned
* `Parsing.problems_iff_reached`: when a text is accepted
-/

namespace BrightLint

/-- The tokens of the current statement in order. -/
def Outline.statement (o : Outline) : List Token := o.tokens.reverse.drop o.statementStart

section Upset

variable {σ α β : Type}

/-- A fault that is no verdict on the code. -/
def Upset (res : EStateM.Result Fault σ α) : Prop := ∃ f s, res = .error f s ∧ f.isVerdict = false

theorem Upset.bind {x : EStateM Fault σ α} {f : α → EStateM Fault σ β} {s : σ} (h : Upset (x s)) :
    Upset ((x >>= f) s) := by
  obtain ⟨e, s₁, hx, he⟩ := h
  exact ⟨e, s₁, bind_of_error hx, he⟩

end Upset

namespace Parsing

/-! ### Statements and lexemes -/

section Lexemes

variable {s s' : Parsing} {types : List Symbol}

theorem checkStatement_of_ok {x : Option Symbol} {b : Bench} (h : s.bench.check types = .ok x b) :
    ∃ s₁, checkStatement types s = .ok () s₁ ∧ s₁.reading = s.reading ∧ s₁.bench = b ∧
      s₁.program = s.program ++ x.toList := by
  unfold checkStatement
  simp only [h]
  refine ⟨_, rfl, ?_⟩
  unfold record
  split <;> exact ⟨rfl, rfl, rfl⟩

theorem checkStatement_of_error {f : Fault} {b : Bench} (h : s.bench.check types = .error f b) :
    ∃ s₁, checkStatement types s = .error f s₁ ∧ s₁.reading = s.reading ∧ s₁.bench = b ∧
      s₁.program = s.program := by
  unfold checkStatement
  simp only [h]
  refine ⟨_, rfl, ?_⟩
  unfold record
  split <;> exact ⟨rfl, rfl, rfl⟩

/-- A step of the reading that ends well. -/
theorem asParse_of_ok {α : Type} {x : Lint α} {a : α} {r : Reading} (h : x s.reading = .ok a r) :
    x.asParse s = .ok a { s with reading := r } := by
  unfold Lint.asParse
  rw [h]

theorem asParse_of_error {α : Type} {x : Lint α} {f : Fault} {r : Reading}
    (h : x s.reading = .error f r) : x.asParse s = .error f { s with reading := r } := by
  unfold Lint.asParse
  rw [h]

theorem readLexeme_of_upset {p : Profile} {x : Lexeme} {f : Fault} {r : Reading}
    (h : Reading.advance p x s.reading = .error f r) (hf : f.isVerdict = false) :
    Upset (readLexeme p x s) := ⟨f, _, bind_of_error (asParse_of_error h), hf⟩

/-- A lexeme that does not end a statement. -/
theorem readLexeme_of_false {p : Profile} {x : Lexeme} {r : Reading}
    (h : Reading.advance p x s.reading = .ok false r) :
    readLexeme p x s = .ok () { s with reading := r } := bind_of_ok (asParse_of_ok h)

/-- A lexeme that ends a statement. -/
theorem readLexeme_of_true {p : Profile} {x : Lexeme} {r : Reading}
    (h : Reading.advance p x s.reading = .ok true r) :
    readLexeme p x s = (do
      checkStatement (r.statement.map Token.symbol)
      modify fun s => { s with reading := s.reading.beginStatement } : Parse Unit)
        { s with reading := r } := bind_of_ok (asParse_of_ok h)

theorem outline_beginStatement (r : Reading) :
    r.beginStatement.outline =
      { r.outline with statementEnded := false, statementStart := r.outline.tokens.length } := rfl

end Lexemes

/-! ### Steps that record no problem -/

section RecordsNone

variable {α β : Type}

/-- A step that records no problem, neither when it is done nor when it finds that the code cannot
be parsed. -/
structure RecordsNone (x : Parse α) : Prop where
  of_ok : ∀ {s a t}, x s = .ok a t → t.reading.problems = s.reading.problems
  of_unparsed : ∀ {s stage t}, x s = .error (.unparsed stage) t →
    t.reading.problems = s.reading.problems

theorem RecordsNone.bind {x : Parse α} {f : α → Parse β} (hx : RecordsNone x)
    (hf : ∀ a, RecordsNone (f a)) : RecordsNone (x >>= f) := by
  constructor
  · intro s b t h
    obtain ⟨a, s₁, hone, hrest⟩ := bind_ok h
    exact ((hf a).of_ok hrest).trans (hx.of_ok hone)
  · intro s stage t h
    rcases bind_error h with h | ⟨a, s₁, hone, hrest⟩
    · exact hx.of_unparsed h
    · exact ((hf a).of_unparsed hrest).trans (hx.of_ok hone)

theorem recordsNone_pure (a : α) : RecordsNone (pure a) := by
  constructor
  · intro s b t h
    cases h
    rfl
  · intro s stage t h
    cases h

theorem recordsNone_advance (p : Profile) (x : Lexeme) :
    RecordsNone (Reading.advance p x).asParse := by
  constructor
  · intro s ended t h
    obtain ⟨r, hr, rfl⟩ := asParse_ok h
    have hstays := Outline.stays_advance p.isLax x s.reading.outline
    rw [← (Reading.advance_ok hr).1] at hstays
    exact hstays.problems
  · intro s stage t h
    have hstep := Reading.steps_advance p x s.reading
    unfold Lint.asParse at h
    split at h
    · cases h
    · next hr =>
      cases h
      rw [hr] at hstep
      cases hstep

theorem recordsNone_checkStatement (types : List Symbol) : RecordsNone (checkStatement types) := by
  constructor
  · intro s a t h
    obtain ⟨_, -, -, hreading, -⟩ := checkStatement_ok h
    rw [hreading]
  · intro s stage t h
    rw [(checkStatement_error h).1]

theorem recordsNone_get : RecordsNone (get : Parse Parsing) := by
  constructor <;> rintro _ _ _ ⟨⟩
  rfl

theorem recordsNone_modify {f : Parsing → Parsing}
    (hf : ∀ s, (f s).reading.problems = s.reading.problems) : RecordsNone (modify f) := by
  constructor <;> rintro s _ _ ⟨⟩
  exact hf s

theorem recordsNone_readLexeme (p : Profile) (x : Lexeme) : RecordsNone (readLexeme p x) := by
  refine (recordsNone_advance p x).bind fun ended => ?_
  cases ended with
  | false => exact recordsNone_pure ()
  | true =>
    exact recordsNone_get.bind fun _ => (recordsNone_checkStatement _).bind fun _ =>
      recordsNone_modify fun _ => rfl

theorem recordsNone_readLexemes (p : Profile) (xs : List Lexeme) :
    RecordsNone (xs.forM (readLexeme p)) := by
  induction xs with
  | nil => exact recordsNone_pure ()
  | cons x xs ih => exact (recordsNone_readLexeme p x).bind fun _ => ih

end RecordsNone

/-! ### The end of a text -/

section Ending

variable {s s' : Parsing} {types : List Symbol}

/-- The symbols of the last statement. -/
def lastTypes (s : Parsing) : List Symbol := s.reading.statement.map Token.symbol

/-- What the statements are reduced to if the last one has the given symbols; if that one cannot be
reduced, it is there as far as it was reduced. -/
def lastProgram (s : Parsing) (types : List Symbol) : Except Fault (List Symbol) :=
  match s.bench.check types with
  | .ok x _ => .ok (s.program ++ x.toList)
  | .error (.unparsed _) b => .ok (s.program ++ b.part.getD s.program)
  | .error f _ => .error f

/-- Whether what the statements were reduced to is a program. -/
def isProgram (st : List Symbol) : Bool := st = [.block] || (reduceProgram st).done

/-- Whether there is a program if the last statement has the given symbols. -/
def acceptsLast (s : Parsing) (types : List Symbol) : Bool :=
  match s.lastProgram types with
  | .ok program => isProgram program
  | .error _ => false

theorem acceptsLast_congr (hbench : s'.bench = s.bench) (hprogram : s'.program = s.program)
    (types : List Symbol) : s'.acceptsLast types = s.acceptsLast types := by
  unfold acceptsLast lastProgram
  rw [hbench, hprogram]

/-- The checks at the end of a text that was read without a problem. -/
def conclude : Parse Unit := do
  if (← get).reading.problems.isEmpty then
    checkLast
    modify layProgram
    let _ ← checkProgram

theorem conclude_of_problems (h : s.reading.problems ≠ []) : conclude s = .ok () s := by
  have hne : ¬ s.reading.problems.isEmpty = true := by simpa using h
  change (if s.reading.problems.isEmpty = true then _ else pure () : Parse Unit) s = _
  rw [if_neg hne]
  rfl

theorem checkLast_of_lastProgram {program : List Symbol}
    (h : s.lastProgram s.lastTypes = .ok program) :
    ∃ s₁, checkLast s = .ok () s₁ ∧ s₁.program = program ∧ s₁.reading = s.reading := by
  unfold lastProgram at h
  cases hcheck : s.bench.check s.lastTypes with
  | ok x b =>
    rw [hcheck] at h
    cases h
    obtain ⟨s₁, hs₁, hread, -, hprogram⟩ := checkStatement_of_ok hcheck
    exact ⟨s₁, tryCatch_of_ok hs₁, hprogram, hread⟩
  | error f b =>
    obtain ⟨s₁, hs₁, hread, hbench, hprogram⟩ := checkStatement_of_error hcheck
    cases f with
    | unparsed stage =>
      rw [hcheck] at h
      cases h
      refine ⟨_, tryCatch_of_error hs₁, ?_, hread⟩
      change s₁.program ++ s₁.bench.part.getD s₁.program = _
      rw [hprogram, hbench]
    | _ =>
      rw [hcheck] at h
      cases h

theorem checkLast_of_error {f : Fault} (h : s.lastProgram s.lastTypes = .error f) :
    Upset (checkLast s) := by
  unfold lastProgram at h
  cases hcheck : s.bench.check s.lastTypes with
  | ok x b =>
    rw [hcheck] at h
    cases h
  | error e b =>
    obtain ⟨s₁, hs₁, -⟩ := checkStatement_of_error hcheck
    cases e with
    | unparsed stage =>
      rw [hcheck] at h
      cases h
    | _ => exact ⟨_, s₁, tryCatch_of_error hs₁, rfl⟩

theorem conclude_of_none (h : s.reading.problems = []) :
    conclude s = (do checkLast; modify layProgram; let _ ← checkProgram : Parse Unit) s := by
  change (if s.reading.problems.isEmpty = true then _ else pure () : Parse Unit) s = _
  rw [if_pos (by simp [h])]

/-- A check of the program ends well exactly if there is one. -/
theorem checkProgram_cases (s : Parsing) :
    (isProgram s.program = true ∧ ∃ b t, checkProgram (layProgram s) = .ok b t ∧
      t.reading = s.reading) ∨
    (isProgram s.program = false ∧ ∃ t,
      checkProgram (layProgram s) = .error (.unparsed .program) t ∧ t.reading = s.reading) := by
  have hcurrent : (layProgram s).current = s.program := rfl
  unfold checkProgram isProgram
  simp only [hcurrent]
  by_cases hblock : s.program = [.block]
  · simp only [if_pos hblock]
    exact .inl ⟨by simp [hblock], _, _, rfl, rfl⟩
  · simp only [if_neg hblock]
    by_cases hdone : (reduceProgram s.program).done = true
    · simp only [if_pos hdone]
      exact .inl ⟨by simp [hdone], _, _, rfl, rfl⟩
    · simp only [if_neg hdone]
      exact .inr ⟨by simp [hblock, hdone], _, rfl, rfl⟩

/-- **How the end of a text comes out** that was read without a problem. -/
theorem conclude_cases (h : s.reading.problems = []) :
    Upset (conclude s) ∨
    (s.acceptsLast s.lastTypes = true ∧ ∃ t, conclude s = .ok () t ∧ t.reading = s.reading) ∨
    (s.acceptsLast s.lastTypes = false ∧ ∃ t, conclude s = .error (.unparsed .program) t ∧
      t.reading = s.reading) := by
  rw [conclude_of_none h, acceptsLast]
  cases hprogram : s.lastProgram s.lastTypes with
  | error f => exact .inl (checkLast_of_error hprogram).bind
  | ok program =>
    obtain ⟨t, ht, rfl, hread⟩ := checkLast_of_lastProgram hprogram
    rw [bind_of_ok ht]
    rcases checkProgram_cases t with ⟨his, b, u, hu, hsame⟩ | ⟨his, u, hu, hsame⟩
    · exact .inr (.inl ⟨his, u, bind_of_ok hu, hsame.trans hread⟩)
    · exact .inr (.inr ⟨his, u, (bind_of_ok rfl).trans (bind_of_error hu), hsame.trans hread⟩)

theorem reading_conclude_ok {t : Parsing} (h : conclude s = .ok () t) : t.reading = s.reading := by
  by_cases hnone : s.reading.problems = []
  · rcases conclude_cases hnone with ⟨_, _, hu, -⟩ | ⟨-, _, hu, hread⟩ | ⟨-, _, hu, -⟩ <;>
      cases hu.symm.trans h
    exact hread
  · rw [conclude_of_problems hnone] at h
    cases h
    rfl

theorem conclude_error {stage : Stage} {t : Parsing} (h : conclude s = .error (.unparsed stage) t) :
    stage = .program ∧ s.reading.problems = [] ∧ t.reading = s.reading := by
  by_cases hnone : s.reading.problems = []
  · rcases conclude_cases hnone with ⟨_, _, hu, hf⟩ | ⟨-, _, hu, -⟩ | ⟨-, _, hu, hread⟩ <;>
      cases hu.symm.trans h
    · cases hf
    · exact ⟨rfl, hnone, hread⟩
  · rw [conclude_of_problems hnone] at h
    cases h

/-- What follows the last lexeme of a text. -/
def close (p : Profile) (rest : List Char) : Parse Unit := do
  (Reading.finish p rest).asParse
  conclude

theorem finish_cases (p : Profile) (rest : List Char) (s : Parsing) :
    Upset ((Reading.finish p rest).asParse s) ∨
      ∃ r, (Reading.finish p rest).asParse s = .ok () { s with reading := r } ∧
        r.outline = (if rest.isEmpty then s.reading else s.reading.recordUnmatched).outline := by
  have hleaves := Reading.leaves_finish p rest s.reading
  cases hr : Reading.finish p rest s.reading with
  | ok a r =>
    rw [hr] at hleaves
    exact .inr ⟨r, asParse_of_ok hr, hleaves⟩
  | error f r =>
    rw [hr] at hleaves
    exact .inl ⟨f, _, asParse_of_error hr, hleaves.1⟩

end Ending

/-! ### Parsings that return -/

section Returns

variable {res : EStateM.Result Fault Parsing Unit} {s s' : Parsing} {p : Profile}

/-- The parsing that is returned: code that is not a program is recorded as a problem. -/
def Returns (res : EStateM.Result Fault Parsing Unit) (s : Parsing) : Prop :=
  res = .ok () s ∨ ∃ stage t, res = .error (.unparsed stage) t ∧ s = recordUnparsed stage t

theorem Returns.not_upset (h : Returns res s) : ¬ Upset res := by
  rintro ⟨f, t, hf, hverdict⟩
  rcases h with h | ⟨stage, u, h, -⟩
  · cases hf.symm.trans h
  · cases hf.symm.trans h
    cases hverdict

theorem problems_recordUnparsed (stage : Stage) (s : Parsing) :
    (recordUnparsed stage s).reading.problems ≠ [] := by simp [recordUnparsed]

theorem Returns.problems_of_error {f : Fault} {t : Parsing} (h : Returns (.error f t) s) :
    s.reading.problems ≠ [] := by
  rcases h with h | ⟨stage, u, -, rfl⟩
  · cases h
  · exact problems_recordUnparsed stage u

/-- A parsing reads the lexemes of its text, and then it closes. -/
theorem parse_returns {text : List Char} (h : parse p text {} = .ok () s) :
    Returns ((do (scan text).1.forM (readLexeme p); close p (scan text).2 : Parse Unit)
      { reading := Reading.fresh.start text }) s := by
  have hbody : (do readText p text; conclude : Parse Unit) {} =
      (do (scan text).1.forM (readLexeme p); close p (scan text).2 : Parse Unit)
        { reading := Reading.fresh.start text } := by
    unfold readText close
    simp only [bind_assoc]
    rfl
  rw [← hbody]
  rcases tryCatch_ok h with h | ⟨f, t, hf, h⟩
  · exact .inl h
  · cases f with
    | unparsed stage =>
      cases h
      exact .inr ⟨stage, t, hf, rfl⟩
    | _ => cases h

/-- Text left over is a problem. -/
theorem Returns.problems_of_rest {rest : List Char} (h : Returns (close p rest s) s')
    (hrest : rest ≠ []) : s'.reading.problems ≠ [] := by
  rcases finish_cases p rest s with hup | ⟨r, hr, houtline⟩
  · exact absurd hup.bind h.not_upset
  rw [if_neg (by simpa using hrest)] at houtline
  have hproblems : r.problems ≠ [] := by
    rw [show r.problems = s.reading.recordUnmatched.problems from
      congrArg Outline.problems houtline]
    simp [Reading.recordUnmatched]
  unfold close at h
  rw [bind_of_ok hr, conclude_of_problems hproblems] at h
  rcases h with h | ⟨_, _, h, -⟩ <;> cases h
  exact hproblems

/-- **A parsing that closes** after a text that was read to its end. -/
theorem Returns.problems_iff_acceptsLast (h : Returns (close p [] s) s')
    (hnone : s.reading.problems = []) :
    s'.reading.problems = [] ↔ s.acceptsLast s.lastTypes = true := by
  rcases finish_cases p [] s with hup | ⟨r, hr, houtline⟩
  · exact absurd hup.bind h.not_upset
  unfold close at h
  rw [bind_of_ok hr] at h
  have hkept : r.problems = [] := (congrArg Outline.problems houtline).trans hnone
  have htypes : { s with reading := r }.lastTypes = s.lastTypes :=
    congrArg (List.map Token.symbol) (congrArg Outline.statement houtline)
  have hlast : { s with reading := r }.acceptsLast { s with reading := r }.lastTypes =
      s.acceptsLast s.lastTypes := by
    rw [htypes]
    exact acceptsLast_congr rfl rfl _
  rw [← hlast]
  rcases conclude_cases (s := { s with reading := r }) hkept with
    hup | ⟨haccepts, t, ht, hread⟩ | ⟨hrejects, t, ht, -⟩
  · exact absurd hup h.not_upset
  · rw [ht] at h
    rcases h with h | ⟨_, _, h, -⟩ <;> cases h
    rw [haccepts, hread]
    exact iff_of_true hkept rfl
  · rw [ht] at h
    rw [hrejects]
    exact iff_of_false h.problems_of_error Bool.false_ne_true

/-- The parsing after the lexemes of a text, if no text is left over and every statement that ended
could be reduced. -/
def reached? (p : Profile) (text : List Char) : Option Parsing :=
  match (scan text).2,
    (scan text).1.forM (readLexeme p) { reading := Reading.fresh.start text } with
  | [], .ok () s => some s
  | _, _ => none

theorem reached?_eq_some_iff {text : List Char} : reached? p text = some s ↔ (scan text).2 = [] ∧
    (scan text).1.forM (readLexeme p) { reading := Reading.fresh.start text } = .ok () s := by
  unfold reached?
  split
  · next hrest hlex => simp [hrest, hlex]
  · next hother =>
    refine iff_of_false (by simp) ?_
    rintro ⟨hrest, hlex⟩
    exact hother s hrest hlex

/-- **When a text is accepted**: it can be read to its end, and there is a program with its last
statement. -/
theorem problems_iff_reached {text : List Char} (h : parse p text {} = .ok () s) :
    s.reading.problems = [] ↔
      ∃ t, reached? p text = some t ∧ t.acceptsLast t.lastTypes = true := by
  have hreturns := parse_returns h
  simp only [reached?_eq_some_iff]
  cases hlex : (scan text).1.forM (readLexeme p) { reading := Reading.fresh.start text } with
  | ok u t =>
    rw [bind_of_ok hlex] at hreturns
    by_cases hrest : (scan text).2 = []
    · rw [hrest] at hreturns
      have hnone : t.reading.problems = [] := (recordsNone_readLexemes p _).of_ok hlex
      simp [hreturns.problems_iff_acceptsLast hnone, hrest]
    · simpa [hrest] using hreturns.problems_of_rest hrest
  | error f t =>
    rw [bind_of_error hlex] at hreturns
    simpa using hreturns.problems_of_error

theorem problems_of_unread {text : List Char} (h : parse p text {} = .ok () s)
    (hrest : (scan text).2 ≠ []) : s.reading.problems ≠ [] := by
  intro hproblems
  obtain ⟨t, ht, -⟩ := (problems_iff_reached h).1 hproblems
  exact hrest (reached?_eq_some_iff.1 ht).1

end Returns

/-- Whether the parsing of a text returns, and with what. -/
def returnsWith (p : Profile) (text : List Char) (q : Parsing → Bool) : Bool :=
  match (parse p text).run {} with
  | .ok () s => q s
  | .error .. => false

theorem exists_of_returnsWith {p : Profile} {text : List Char} {q : Parsing → Bool}
    (h : returnsWith p text q = true) : ∃ s, (parse p text).run {} = .ok () s ∧ q s = true := by
  unfold returnsWith at h
  split at h
  · next s hs => exact ⟨s, hs, h⟩
  · cases h

end Parsing

end BrightLint
