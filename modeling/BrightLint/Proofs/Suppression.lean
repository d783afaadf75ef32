import BrightLint.Proofs.LineEndChecks
import BrightLint.Proofs.ScanBreaks

/-!
The suppression of warnings. After a directive to skip the file nothing is to be warned about, and
after one to skip a line nothing on that line. The checks of words and of ends of lines keep to
this, but there are warnings that do not ask what is skipped: those about commas, and those of a
directive that names a check. They are the strays.

* `strays`: the warnings of lexemes that do not ask what is skipped
* `strays_eq_nil`: when there are none
* `scan_after_directive`: a directive ends its line
* `Reading.warnings_of_unchecked`: where nothing is checked, the strays are all there is
* `Reading.read_suppressed`: the warnings after a directive to skip the file, and when a line that
  is to be skipped has none
-/

namespace BrightLint

/-- Where a line ends, if these are the lexemes from its line feed on. -/
def Place.atEnd (here : Place) : List Lexeme → Place
  | [] => here
  | x :: _ => here.beyond x

/-! ### Directives and their lines -/

/-- After a directive its line ends. -/
theorem scan_after_directive {text : List Char} {ys zs : List Lexeme} {d : Lexeme}
    (h : (scan text).1 = ys ++ d :: zs) (hd : d.kind = .directive) :
    zs = [] ∨ ∃ zs', zs = .lineFeed :: zs' := by
  obtain ⟨t, -, hscan⟩ := scan_split h
  have hfirst := first?_of_scan hscan
  have hrest : t.drop d.text.length = t.dropWhile (· != '\n') := by
    rw [Lexeme.text_of_comment hfirst (.inl hd)]
    have hcut : Text.firstLine t ++ t.dropWhile (· != '\n') = t := List.takeWhile_append_dropWhile
    exact (congrArg (List.drop _) hcut.symm).trans List.drop_left
  rw [scan_of_some hfirst, hrest, Prod.mk.injEq, List.cons.injEq] at hscan
  rw [← hscan.1.2]
  rcases hfeed : t.dropWhile (· != '\n') with _ | ⟨c, u⟩
  · exact .inl (by rw [scan_nil])
  · have hc : c = '\n' := by
      have hhead := List.head?_dropWhile_not (· != '\n') t
      rw [hfeed] at hhead
      simpa using hhead
    rw [hc, scan_of_some (Lexeme.first?_lineFeed u)]
    exact .inr ⟨_, rfl⟩

/-- A directive is the last lexeme of its line. -/
theorem eq_nil_of_directive {text : List Char} {ys us vs ws : List Lexeme} {d : Lexeme}
    (h : (scan text).1 = ys ++ (us ++ d :: vs) ++ ws) (hd : d.kind = .directive)
    (hvs : ∀ x ∈ vs, x.kind ≠ .newLine) : vs = [] := by
  rcases vs with _ | ⟨v, vs⟩
  · rfl
  · have hsplit : (scan text).1 = (ys ++ us) ++ d :: (v :: vs ++ ws) := by simp [h]
    rcases scan_after_directive hsplit hd with hnil | ⟨zs, hfeed⟩
    · cases hnil
    · rw [List.cons_append] at hfeed
      cases hfeed
      exact absurd rfl (hvs .lineFeed List.mem_cons_self)

theorem Lexeme.role_of_isSkipLine {x : Lexeme} (h : x.isSkipLine = true) :
    x.role = .directive Check.skipLine.key := by
  unfold isSkipLine at h
  split at h
  · next hrole => rw [hrole, eq_of_beq h]
  · cases h

/-! ### Strays -/

/-- The warnings of a lexeme that do not ask what is skipped: about a comma that it drops or stands
for, and those of a directive that names a check. -/
def Lexeme.strayWarnings (p : Profile) (x : Lexeme) (here : Place) (o : Outline) : List Warning :=
  if x.kind = .blank then []
  else ((o.read x).droppedComma p.settings ++
    match x.role with
    | .lineEnd => o.missingComma p.settings
    | .directive command => (Topic.directive command).complaints p x.text (here.beyond x)
    | .word => []).map (⟨·, here.line⟩)

/-- The same for lexemes one after the other, the latest first. -/
def strays (p : Profile) : List Lexeme → Place → Outline → List Warning
  | [], _, _ => []
  | x :: xs, here, o =>
    strays p xs (here.past x) (o.next p.isLax x) ++ x.strayWarnings p here o

theorem strayWarnings_lineFeed (p : Profile) (here : Place) (o : Outline) :
    Lexeme.lineFeed.strayWarnings p here o = (o.missingComma p.settings).map (⟨·, here.line⟩) := by
  unfold Lexeme.strayWarnings
  rw [if_neg (by decide), Reading.droppedComma_of_lineEnd (by rfl)]
  rfl

theorem strayWarnings_eq_nil {p : Profile} {x : Lexeme}
    (hmissing : p.settings.isActive .missingComma = .ok false)
    (htrailing : p.settings.isActive .trailingComma = .ok false)
    (hx : ∀ command, x.role = .directive command →
      command = Check.skipFile.key ∨ command = Check.skipLine.key) (here : Place) (o : Outline) :
    x.strayWarnings p here o = [] := by
  unfold Lexeme.strayWarnings
  rw [Outline.droppedComma_inactive htrailing]
  split
  · rfl
  · cases hrole : x.role with
    | lineEnd => simp only [Outline.missingComma_inactive hmissing, List.nil_append, List.map_nil]
    | directive command => rcases hx command hrole with rfl | rfl <;> rfl
    | word => rfl

/-- **There are no strays** where commas are not checked and no directive names a check. -/
theorem strays_eq_nil {p : Profile} (hmissing : p.settings.isActive .missingComma = .ok false)
    (htrailing : p.settings.isActive .trailingComma = .ok false) {xs : List Lexeme}
    (hxs : ∀ x ∈ xs, ∀ command, x.role = .directive command →
      command = Check.skipFile.key ∨ command = Check.skipLine.key) (here : Place) (o : Outline) :
    strays p xs here o = [] := by
  induction xs generalizing here o with
  | nil => rfl
  | cons x xs ih =>
    rw [strays, ih fun y hy => hxs y (List.mem_cons_of_mem _ hy),
      strayWarnings_eq_nil hmissing htrailing (hxs x List.mem_cons_self)]
    rfl

namespace Ledger

variable {p : Profile} {l : Ledger} {x : Lexeme}

theorem isChecked_of_skipFile {line : Nat} (h : l.skipFile.isTrue = true) :
    l.isChecked line = false := by
  rw [isChecked, h, Bool.not_true, Bool.and_false]

theorem isChecked_of_skipLine {line : Nat} (h : l.skipLine = some (line : Int)) :
    l.isChecked line = false := by
  rw [isChecked, h, bne_self_eq_false, Bool.false_and]

/-- **Where nothing is checked**, the strays of a lexeme are its only warnings. -/
theorem warnings_next_of_unchecked {here : Place} (h : l.isChecked here.line = false)
    (o : Outline) : (l.next p x here o).warnings = x.strayWarnings p here o ++ l.warnings := by
  have hshift : isChecked (here.beyond x).line { l with shift := l.shift + x.shift } = false := h
  unfold next Lexeme.strayWarnings
  split
  · rfl
  · unfold takeIn
    cases hrole : x.role with
    | lineEnd =>
      rw [checkLine_of_unchecked hshift]
      simp [warn, Place.beyond]
    | directive command =>
      obtain ⟨file, skip, hheed, -, -⟩ := heed_eq p (.directive command) here.line
        { l with shift := l.shift + x.shift }
      simp [inspect, warn, Place.beyond, hheed]
    | word =>
      rw [meet, hshift, if_neg Bool.false_ne_true]
      simp [warn]

/-- What a lexeme can change about the file being skipped. -/
theorem skipFile_next (p : Profile) (x : Lexeme) (here : Place) (o : Outline) (l : Ledger) :
    (l.next p x here o).skipFile = l.skipFile ∨
      Check.skipsFile p.settings = .ok (l.next p x here o).skipFile := by
  unfold next
  split
  · exact .inl rfl
  · unfold takeIn
    cases hrole : x.role with
    | lineEnd =>
      exact .inl (skips_checkLine p (here.beyond x) { l with shift := l.shift + x.shift }).1
    | directive command =>
      obtain ⟨file, skip, hheed, hfile, -⟩ := heed_eq p (.directive command) (here.beyond x).line
        { l with shift := l.shift + x.shift }
      simp only [inspect, hheed]
      exact hfile
    | word =>
      simp only [meet, inspect, heed_kind]
      split <;> exact .inl rfl

/-- A directive is heeded wherever it stands. -/
theorem next_directive {command : String} (hx : x.role = .directive command) (here : Place)
    (o : Outline) : l.next p x here o =
      ({ l with shift := l.shift + x.shift }.inspect p (.directive command) x.text
        (here.beyond x)).warn ((o.read x).droppedComma p.settings) here := by
  have hblank : x.kind ≠ .blank := by
    rw [x.kind_of_directive hx]
    decide
  rw [next, if_neg hblank, takeIn, hx]

/-- A directive to skip the file. -/
theorem skipFile_next_directive {here : Place} {o : Outline}
    (hx : x.role = .directive Check.skipFile.key)
    (hfile : p.settings.isActive .skipFile = .ok true) :
    (l.next p x here o).skipFile.isTrue = true := by
  have htopic : (Topic.directive Check.skipFile.key).inspection? = some .skipFile := by decide
  rw [next_directive hx]
  cases hv : Check.skipsFile p.settings with
  | error f =>
    unfold Settings.isActive at hfile
    unfold Check.skipsFile at hv
    rw [hv] at hfile
    cases hfile
  | ok v => simpa [inspect, heed, htopic, hv, warn] using isTrue_of_skipsFile hfile hv

/-- A directive to skip the next line. -/
theorem skipLine_next_directive {here : Place} {o : Outline} (hx : x.isSkipLine = true)
    (hline : p.settings.isActive .skipLine = .ok true) :
    (l.next p x here o).skipLine = some (here.line + 1 : Int) := by
  have htopic : (Topic.directive Check.skipLine.key).inspection? = some .skipLine := by decide
  rw [next_directive (Lexeme.role_of_isSkipLine hx)]
  simp [inspect, heed, htopic, Check.skippedLine, whenActive_of_active hline, warn, Place.beyond]

end Ledger

namespace Reading

variable {p : Profile} {text : List Char} {xs ys vs ws : List Lexeme} {r s t u : Reading}

/-- The strays of two parts. -/
theorem strays_append (h : xs.forM (readLexeme p) s = .ok () t) (ys : List Lexeme) :
    strays p (xs ++ ys) s.place s.outline =
      strays p ys t.place t.outline ++ strays p xs s.place s.outline := by
  induction xs generalizing s with
  | nil =>
    cases h
    simp [strays]
  | cons x xs ih =>
    obtain ⟨⟨⟩, s₁, hone, hrest⟩ := bind_ok h
    rw [List.cons_append, strays, strays, ← place_readLexeme hone, ← (readLexeme_ok hone).1,
      ih hrest, List.append_assoc]

/-- **Where nothing is checked**, the strays are all there is. -/
theorem warnings_of_unchecked (h : xs.forM (readLexeme p) s = .ok () t)
    (hoff : ∀ ys x zs u, xs = ys ++ x :: zs → ys.forM (readLexeme p) s = .ok () u →
      u.ledger.isChecked u.line = false) :
    t.warnings = strays p xs s.place s.outline ++ s.warnings := by
  -- the run so far is part of the invariant: it is what says that nothing is checked
  refine (forM_invariant (I := fun ys u => ys.forM (readLexeme p) s = .ok () u ∧
    u.warnings = strays p ys s.place s.outline ++ s.warnings) ?_ ⟨rfl, rfl⟩ h).2
  rintro ys x zs u u' hxs ⟨hrun, hu⟩ hone
  have hledger := congrArg Ledger.warnings (ledger_readLexeme hone)
  rw [Ledger.warnings_next_of_unchecked (hoff ys x zs u hxs hrun)] at hledger
  refine ⟨?_, ?_⟩
  · rw [List.forM_eq_forM, List.forM_append, ← List.forM_eq_forM, bind_of_ok hrun]
    simpa using hone
  · rw [strays_append hrun, List.append_assoc, ← hu]
    exact hledger

/-! ### Skipped files -/

/-- A file that is skipped stays skipped. -/
theorem skipFile_readLexemes (hfile : p.settings.isActive .skipFile = .ok true)
    (hs : s.skipFile.isTrue = true) (h : xs.forM (readLexeme p) s = .ok () t) :
    t.skipFile.isTrue = true := by
  refine forM_invariant (I := fun _ u => u.skipFile.isTrue = true) ?_ hs h
  intro ys x zs u u' _ hu hone
  have hledger : u'.skipFile = _ := congrArg Ledger.skipFile (ledger_readLexeme hone)
  rw [hledger]
  rcases Ledger.skipFile_next p x u.place u.outline u.ledger with hsame | hset
  · rw [hsame]
    exact hu
  · exact isTrue_of_skipsFile hfile hset

/-- **The rest of a file that is skipped** leaves strays only. -/
theorem warnings_of_skippedFile {rest : List Char}
    (hfile : p.settings.isActive .skipFile = .ok true) (hs : s.skipFile.isTrue = true)
    (h : xs.forM (readLexeme p) s = .ok () t) (hfinish : finish p rest t = .ok () r) :
    r.warnings = strays p xs s.place s.outline ++ s.warnings := by
  have hoff : ∀ (ys : List Lexeme) (u : Reading), ys.forM (readLexeme p) s = .ok () u →
      u.ledger.isChecked u.line = false := by
    intro ys u hrun
    exact Ledger.isChecked_of_skipFile (skipFile_readLexemes hfile hs hrun)
  rw [← warnings_of_unchecked h fun ys _ _ u _ hrun => hoff ys u hrun]
  have hledger := ledger_finish hfinish
  rw [Ledger.checkLine_of_unchecked (hoff xs t h)] at hledger
  exact congrArg Ledger.warnings hledger

/-! ### Skipped lines -/

/-- The line after a directive to skip it. -/
theorem skipLine_of_directive {d : Lexeme} (hd : d.isSkipLine = true)
    (hline : p.settings.isActive .skipLine = .ok true)
    (h : [d, .lineFeed].forM (readLexeme p) s = .ok () t) : t.skipLine = some (t.line : Int) := by
  obtain ⟨⟨⟩, s₁, hone, h⟩ := bind_ok h
  obtain ⟨⟨⟩, s₂, hfeed, h⟩ := bind_ok h
  cases h
  have hskip : s₁.skipLine = some (s.line + 1 : Int) :=
    (congrArg Ledger.skipLine (ledger_readLexeme hone)).trans
      (Ledger.skipLine_next_directive hd hline)
  have hkind : d.kind ≠ .newLine := by
    rw [d.kind_of_directive (Lexeme.role_of_isSkipLine hd)]
    decide
  have hline₁ : s₁.line = s.line := by
    have hplace := congrArg Place.line (place_readLexeme hone)
    rwa [Place.past, if_neg hkind] at hplace
  have hline₂ : t.line = s₁.line + 1 := congrArg Place.line (place_readLexeme hfeed)
  have hsame : t.skipLine = s₁.skipLine := by
    have hledger := congrArg Ledger.skipLine (ledger_readLexeme hfeed)
    rw [Ledger.next_lineFeed] at hledger
    exact hledger.trans (Ledger.skips_checkLine p (s₁.place.beyond .lineFeed) s₁.ledger).2
  rw [hsame, hskip, hline₂, hline₁]
  rfl

/-- A reading that has said more, about lines from `lo` to `hi`. -/
def WarnsWithin (lo hi : Nat) (r r' : Reading) : Prop :=
  ∃ new, r'.warnings = new ++ r.warnings ∧ ∀ w ∈ new, lo ≤ w.line ∧ w.line ≤ hi

theorem WarnsWithin.refl (lo hi : Nat) (r : Reading) : WarnsWithin lo hi r r := ⟨[], rfl, by simp⟩

theorem WarnsWithin.trans {lo hi : Nat} (h : WarnsWithin lo hi s t) (h' : WarnsWithin lo hi t u) :
    WarnsWithin lo hi s u := by
  obtain ⟨ws, hws, hw⟩ := h
  obtain ⟨ws', hws', hw'⟩ := h'
  refine ⟨ws' ++ ws, by rw [hws', hws, List.append_assoc], fun w hmem => ?_⟩
  rcases List.mem_append.1 hmem with hmem | hmem
  · exact hw' w hmem
  · exact hw w hmem

theorem WarnsWithin.mono {lo lo' hi hi' : Nat} (h : WarnsWithin lo hi s t) (hlo : lo' ≤ lo)
    (hhi : hi ≤ hi') : WarnsWithin lo' hi' s t := by
  obtain ⟨ws, hws, hw⟩ := h
  refine ⟨ws, hws, fun w hmem => ?_⟩
  have := hw w hmem
  omega

theorem warnsWithin_readLexeme {x : Lexeme} (h : readLexeme p x s = .ok () t) :
    WarnsWithin s.line s.line s t := by
  obtain ⟨ws, hws, hw⟩ := (readLexeme_ok h).2.warnings
  exact ⟨ws, hws, fun w hmem => by simp [(hw w hmem).1]⟩

theorem warnsWithin_finish {rest : List Char} (h : finish p rest s = .ok () t) :
    WarnsWithin s.line s.line s t := by
  obtain ⟨ws, hws, hw⟩ := (finish_ok h).1.warnings
  exact ⟨ws, hws, fun w hmem => by simp [(hw w hmem).1]⟩

theorem line_readLexeme_le {x : Lexeme} (h : readLexeme p x s = .ok () t) : s.line ≤ t.line := by
  have hline : t.line = _ := congrArg Place.line (place_readLexeme h)
  rw [hline, Place.past]
  split
  · exact Nat.le_succ _
  · exact Nat.le_refl _

/-- A reading goes on with later lines. -/
theorem warnsWithin_readLexemes (h : xs.forM (readLexeme p) s = .ok () t) :
    s.line ≤ t.line ∧ WarnsWithin s.line t.line s t := by
  refine forM_invariant (I := fun _ u => s.line ≤ u.line ∧ WarnsWithin s.line u.line s u) ?_
    ⟨Nat.le_refl _, .refl _ _ _⟩ h
  rintro ys x zs u u' - ⟨hle, hwithin⟩ hone
  have hle' := line_readLexeme_le hone
  exact ⟨Nat.le_trans hle hle', (hwithin.mono (Nat.le_refl _) hle').trans
    ((warnsWithin_readLexeme hone).mono hle hle')⟩

/-- A line has no warnings if none were added while it was read. -/
theorem silent_iff {hi : Nat} (hs : ∀ w ∈ s.warnings, w.line < s.line)
    (hu : WarnsWithin s.line s.line s u) (hr : WarnsWithin (s.line + 1) hi u r) :
    (∀ w ∈ r.warnings, w.line ≠ s.line) ↔ u.warnings = s.warnings := by
  obtain ⟨new, hnew, hline⟩ := hu
  obtain ⟨later, hlater, hafter⟩ := hr
  rw [hlater, hnew, List.append_left_eq_self]
  constructor
  · intro h
    refine List.eq_nil_iff_forall_not_mem.2 fun w hw => ?_
    have := hline w hw
    exact h w (by simp [hw]) (by omega)
  · rintro rfl w hw
    rw [List.nil_append] at hw
    rcases List.mem_append.1 hw with hw | hw
    · have := hafter w hw
      omega
    · exact Nat.ne_of_lt (hs w hw)

/-- A line that is to be skipped: it comes after the line with the directive `d`. Its own lexemes
are `vs`, and `ws` are those from its line feed on. The reading stands at `s` before the line and at
`t` after its lexemes. -/
structure SkipsLine (p : Profile) (text : List Char) (ys : List Lexeme) (d : Lexeme)
    (vs ws : List Lexeme) (s t : Reading) : Prop where
  scan_eq : (scan text).1 = ys ++ d :: .lineFeed :: (vs ++ ws)
  directive : d.isSkipLine = true
  inline : ∀ x ∈ vs, x.kind ≠ .newLine
  stop : ws = [] ∨ ∃ ws', ws = .lineFeed :: ws'
  before : (ys ++ [d, .lineFeed]).forM (readLexeme p) (fresh.start text) = .ok () s
  lexemes : vs.forM (readLexeme p) s = .ok () t

namespace SkipsLine

variable {d : Lexeme}

/-- The warnings up to the line are about earlier lines. -/
theorem line_lt (h : SkipsLine p text ys d vs ws s t) : ∀ w ∈ s.warnings, w.line < s.line := by
  have hscan : (scan text).1 = (ys ++ [d]) ++ .lineFeed :: (vs ++ ws) := by simp [h.scan_eq]
  have hbefore : ((ys ++ [d]) ++ [Lexeme.lineFeed]).forM (readLexeme p) (fresh.start text) =
      .ok () s := by
    simpa using h.before
  obtain ⟨s₁, hrun, hfeed⟩ := forM_append_ok hbefore
  obtain ⟨⟨⟩, s₂, hfeed, hdone⟩ := bind_ok hfeed
  cases hdone
  have hstands := StandsAfter.readLexemes hscan hrun
  have hline : s.line = s₁.line + 1 := congrArg Place.line (place_readLexeme hfeed)
  obtain ⟨new, hnew, hlines⟩ := warnsWithin_readLexeme hfeed
  intro w hw
  rw [hnew] at hw
  rcases List.mem_append.1 hw with hw | hw
  · have := hlines w hw
    omega
  · have := hstands.warnings_le w hw
    omega

theorem line_eq (h : SkipsLine p text ys d vs ws s t) : t.line = s.line :=
  congrArg Place.line (place_readLexemes h.inline h.lexemes)

theorem isCut (h : SkipsLine p text ys d vs ws s t) : ∀ x ∈ vs, x.IsCut := by
  intro x hx
  refine Lexeme.isCut_of_mem (s := text) ?_
  rw [h.scan_eq]
  simp [hx]

/-- The line is skipped until there is a further directive on it. -/
theorem unchecked (h : SkipsLine p text ys d vs ws s t)
    (hline : p.settings.isActive .skipLine = .ok true) {us vs' : List Lexeme} (hvs : vs = us ++ vs')
    (hus : us.any Lexeme.isSkipLine = false) (hrun : us.forM (readLexeme p) s = .ok () u) :
    u.ledger.isChecked u.line = false := by
  obtain ⟨s₀, -, hdirective⟩ := forM_append_ok h.before
  have hskip := skipLine_of_directive h.directive hline hdirective
  have hinline : ∀ x ∈ us, x.kind ≠ .newLine := fun x hx =>
    h.inline x (hvs ▸ List.mem_append_left _ hx)
  have htreads := treads_readLexemes (fun x hx => h.isCut x (hvs ▸ List.mem_append_left _ hx))
    hinline rfl hrun
  have hsame : u.skipLine = s.skipLine := by
    rcases htreads.skipLine with hsame | ⟨hany, -⟩
    · exact hsame
    · rw [hus] at hany
      cases hany
  have hplace : u.line = s.line := congrArg Place.line (place_readLexemes hinline hrun)
  refine Ledger.isChecked_of_skipLine ?_
  rw [hplace, ← hskip]
  exact hsame

/-- Before the last lexeme of the line there is no directive. -/
theorem any_isSkipLine (h : SkipsLine p text ys d vs ws s t) {us zs : List Lexeme} {x : Lexeme}
    (hvs : vs = us ++ x :: zs) : us.any Lexeme.isSkipLine = false := by
  rw [List.any_eq_false]
  intro y hy hskip
  obtain ⟨us₁, us₂, rfl⟩ := List.append_of_mem hy
  have hkind := y.kind_of_directive (Lexeme.role_of_isSkipLine hskip)
  have hscan : (scan text).1 =
      (ys ++ [d, .lineFeed]) ++ (us₁ ++ y :: (us₂ ++ x :: zs)) ++ ws := by
    simp [h.scan_eq, hvs]
  have hnil := eq_nil_of_directive hscan hkind fun z hz =>
    h.inline z (by rw [hvs, List.append_assoc]; exact List.mem_append_right _ (.tail _ hz))
  simp at hnil

/-- **The lexemes of the line** leave strays only. -/
theorem warnings_eq (h : SkipsLine p text ys d vs ws s t)
    (hline : p.settings.isActive .skipLine = .ok true) :
    t.warnings = strays p vs s.place s.outline ++ s.warnings :=
  warnings_of_unchecked h.lexemes fun _ _ _ _ hvs hrun =>
    h.unchecked hline hvs (h.any_isSkipLine hvs) hrun

/-- The end of the line is checked only after a further directive on it. -/
theorem checkLine_eq (h : SkipsLine p text ys d vs ws s t)
    (hline : p.settings.isActive .skipLine = .ok true) (hvs : vs.any Lexeme.isSkipLine = false)
    {here : Place} (hhere : here.line = t.line) : t.ledger.checkLine p here = t.ledger := by
  refine Ledger.checkLine_of_unchecked ?_
  rw [hhere]
  exact h.unchecked hline (List.append_nil vs).symm hvs h.lexemes

/-- **The whole line** adds no warnings if there are no strays, and if the check of its end, should
there be a further directive on it, finds nothing. -/
theorem warnings_eq_iff (h : SkipsLine p text ys d vs ws s t)
    (hline : p.settings.isActive .skipLine = .ok true) {here : Place} (hhere : here.line = t.line)
    {us : List Lexeme}
    (hu : u.warnings = strays p us t.place t.outline ++ (t.ledger.checkLine p here).warnings) :
    u.warnings = s.warnings ↔ strays p (vs ++ us) s.place s.outline = [] ∧
      (vs.any Lexeme.isSkipLine = true → (t.ledger.checkLine p here).warnings = t.warnings) := by
  obtain ⟨found, hfound⟩ := Ledger.suffix_checkLine p here t.ledger
  have ht : t.ledger.warnings = t.warnings := rfl
  -- without a further directive the end of the line is not checked, and nothing is found there
  have hends : (vs.any Lexeme.isSkipLine = true → found = []) ↔ found = [] := by
    refine ⟨fun himp => ?_, fun hnil _ => hnil⟩
    cases hvs : vs.any Lexeme.isSkipLine with
    | true => exact himp hvs
    | false =>
      rw [h.checkLine_eq hline hvs hhere] at hfound
      exact List.append_left_eq_self.1 hfound
  rw [hu, strays_append h.lexemes, ← hfound, ht, List.append_left_eq_self, hends,
    h.warnings_eq hline, ← List.append_assoc, ← List.append_assoc, List.append_left_eq_self]
  simp only [List.append_eq_nil_iff]
  exact and_right_comm

/-- **The end of the line**, and what follows. -/
theorem silent (h : SkipsLine p text ys d vs ws s t)
    (hline : p.settings.isActive .skipLine = .ok true) {rest : List Char}
    (hrun : ws.forM (readLexeme p) t = .ok () u) (hfinish : finish p rest u = .ok () r) :
    (∀ w ∈ r.warnings, w.line ≠ s.line) ↔ strays p (vs ++ ws.take 1) s.place s.outline = [] ∧
      (vs.any Lexeme.isSkipLine = true →
        (t.ledger.checkLine p (t.place.atEnd ws)).warnings = t.warnings) := by
  have hwithin : WarnsWithin s.line s.line s t :=
    h.line_eq ▸ (warnsWithin_readLexemes h.lexemes).2
  -- either the text ends with the line, or what comes after its line feed is about later lines
  rcases h.stop with rfl | ⟨ws', rfl⟩
  · cases hrun
    have hend : WarnsWithin s.line s.line t r := h.line_eq ▸ warnsWithin_finish hfinish
    rw [silent_iff h.line_lt (hwithin.trans hend) (.refl _ r.line r)]
    exact h.warnings_eq_iff hline rfl (congrArg Ledger.warnings (ledger_finish hfinish))
  · obtain ⟨⟨⟩, u₁, hfeed, hrun⟩ := bind_ok hrun
    have hend : WarnsWithin s.line s.line t u₁ := h.line_eq ▸ warnsWithin_readLexeme hfeed
    have hnext : u₁.line = s.line + 1 :=
      (congrArg Place.line (place_readLexeme hfeed)).trans (congrArg (· + 1) h.line_eq)
    obtain ⟨hle, hlater⟩ := warnsWithin_readLexemes hrun
    rw [hnext] at hle hlater
    rw [silent_iff h.line_lt (hwithin.trans hend)
      (hlater.trans ((warnsWithin_finish hfinish).mono hle (Nat.le_refl _)))]
    refine h.warnings_eq_iff hline rfl ?_
    have hledger := congrArg Ledger.warnings (ledger_readLexeme hfeed)
    rw [Ledger.next_lineFeed] at hledger
    rw [List.take_succ_cons, List.take_zero, strays, strays, List.nil_append,
      strayWarnings_lineFeed]
    exact hledger

end SkipsLine

/-- **Suppression.** If files and lines can be skipped, the warnings after a directive to skip the
file are the strays of what follows. A line after a directive to skip it has no warnings if it has
no strays, and if the check of its end finds nothing, which is made only after a further directive
to skip a line. There are no strays if commas are not checked and no directive names a check. -/
theorem read_suppressed (p : Profile) (hfile : p.settings.isActive .skipFile = .ok true)
    (hline : p.settings.isActive .skipLine = .ok true) (text : List Char) (r : Reading)
    (h : (read p text).run fresh = .ok () r) :
    (∀ ys d zs s, (scan text).1 = ys ++ d :: zs → d.role = .directive Check.skipFile.key →
      (ys ++ [d]).forM (readLexeme p) (fresh.start text) = .ok () s →
      r.warnings = strays p zs s.place s.outline ++ s.warnings) ∧
    (∀ ys d vs ws s t, SkipsLine p text ys d vs ws s t →
      ((∀ w ∈ r.warnings, w.line ≠ s.line) ↔
        strays p (vs ++ ws.take 1) s.place s.outline = [] ∧
        (vs.any Lexeme.isSkipLine = true →
          (t.ledger.checkLine p (t.place.atEnd ws)).warnings = t.warnings))) ∧
    (p.settings.isActive .missingComma = .ok false →
      p.settings.isActive .trailingComma = .ok false → ∀ xs here o,
      (∀ x ∈ xs, ∀ command, x.role = .directive command →
        command = Check.skipFile.key ∨ command = Check.skipLine.key) →
      strays p xs here o = []) := by
  obtain ⟨⟨⟩, e, hlex, hfinish⟩ := bind_ok
    (x := (scan text).1.forM (readLexeme p)) (s := fresh.start text) h
  refine ⟨fun ys d zs s hscan hd hs => ?_, fun ys d vs ws s t hskips => ?_,
    fun hmissing htrailing xs here o hxs => strays_eq_nil hmissing htrailing hxs here o⟩
  · rw [hscan, ← List.singleton_append, ← List.append_assoc] at hlex
    obtain ⟨s', hs', hrest⟩ := forM_append_ok hlex
    rw [hs] at hs'
    cases hs'
    obtain ⟨s₀, -, hone⟩ := forM_append_ok hs
    obtain ⟨⟨⟩, s₁, hone, hdone⟩ := bind_ok hone
    cases hdone
    have hskip : s.ledger.skipFile.isTrue = true := by
      rw [ledger_readLexeme hone]
      exact Ledger.skipFile_next_directive hd hfile
    exact warnings_of_skippedFile hfile hskip hrest hfinish
  · have hsplit : (scan text).1 = (ys ++ [d, .lineFeed]) ++ (vs ++ ws) := by
      simp [hskips.scan_eq]
    rw [hsplit] at hlex
    obtain ⟨s', hs', hlex⟩ := forM_append_ok hlex
    rw [hskips.before] at hs'
    cases hs'
    obtain ⟨t', ht', hrest⟩ := forM_append_ok hlex
    rw [hskips.lexemes] at ht'
    cases ht'
    exact hskips.silent hline hrest hfinish

/-- Files and lines can be skipped, and something else is checked. -/
def withSkips (others : List Check) : Profile where
  settings :=
    .obj ((.skipFile :: .skipLine :: others).map fun c => (c.key, .obj [("active", .bool true)]))
  knows _ := true

/-- A directive to skip something. -/
def skipping (c : Check) : Lexeme :=
  ⟨("'BSLint_" ++ c.key).toList, .directive c.key none, .directive, .directive, 0⟩

/-- Whether some lexemes at the start of a text can be read, with a given property of what comes
then. -/
def startsWith (p : Profile) (text : List Char) (xs : List Lexeme) (q : Reading → Bool) : Bool :=
  match xs.forM (readLexeme p) (fresh.start text) with
  | .ok () s => q s
  | .error .. => false

theorem exists_of_startsWith {q : Reading → Bool} (h : startsWith p text xs q = true) :
    ∃ s, xs.forM (readLexeme p) (fresh.start text) = .ok () s ∧ q s = true := by
  unfold startsWith at h
  split at h
  · exact ⟨_, by assumption, h⟩
  · cases h

/-- A word on a line that is skipped, and then a list in the rest of a file that is skipped. White
space ends both lines. -/
def hushedText : List Char := "'BSLint_skip_line\nx \n'BSLint_skip_file\n[,] ".toList

def hushedLine : List Lexeme :=
  [⟨"x".toList, .ident "x" "", .ident, .ident, 0⟩, ⟨" ".toList, .plain, .blank, .blank, 0⟩]

def hushedRest : List Lexeme :=
  [.lineFeed, ⟨"[".toList, .plain, .openSquare, .openSquare, 0⟩,
    ⟨",".toList, .plain, .special, .comma, 0⟩,
    ⟨"]".toList, .plain, .closeSquare, .closeSquare, 0⟩, ⟨" ".toList, .plain, .blank, .blank, 0⟩]

/-- The line that is skipped has no warnings, and after the directive to skip the file there is one,
about a comma. -/
theorem read_suppressed_hushedText :
    ∃ r, (read (withSkips [.trailingBlank, .trailingComma]) hushedText).run fresh = .ok () r ∧
      (∀ w ∈ r.warnings, w.line ≠ 2) ∧
      r.warnings.map (fun w => (w.complaint.finding, w.line)) = [(.trailingComma, 4)] := by
  have hruns : ((scan hushedText).1 == skipping .skipLine :: .lineFeed ::
      (hushedLine ++ .lineFeed :: skipping .skipFile :: hushedRest) &&
      returnsWith (withSkips [.trailingBlank, .trailingComma]) hushedText fun _ => true) =
        true := by
    decide +kernel
  rw [Bool.and_eq_true, beq_iff_eq] at hruns
  obtain ⟨hscan, hreturns⟩ := hruns
  obtain ⟨r, h, -⟩ := exists_of_returnsWith hreturns
  obtain ⟨hfiles, hlines, -⟩ := read_suppressed _ rfl rfl _ r h
  -- the reading up to the skipped line, up to its end, and up to the rest that is skipped
  have hline : startsWith (withSkips [.trailingBlank, .trailingComma]) hushedText
      [skipping .skipLine, .lineFeed] (fun s => s.line == 2 && (strays
        (withSkips [.trailingBlank, .trailingComma]) (hushedLine ++ [.lineFeed]) s.place
        s.outline).isEmpty) = true := by
    decide +kernel
  have hrest : startsWith (withSkips [.trailingBlank, .trailingComma]) hushedText
      ([skipping .skipLine, .lineFeed] ++ (hushedLine ++ [.lineFeed]) ++ [skipping .skipFile])
      (fun s => s.warnings.isEmpty && (strays (withSkips [.trailingBlank, .trailingComma])
        hushedRest s.place s.outline).map (fun w => (w.complaint.finding, w.line)) ==
          [(.trailingComma, 4)]) = true := by
    decide +kernel
  obtain ⟨s, hs, hquiet⟩ := exists_of_startsWith hline
  obtain ⟨u, hu, hstray⟩ := exists_of_startsWith hrest
  rw [Bool.and_eq_true, beq_iff_eq] at hquiet hstray
  refine ⟨r, h, ?_, ?_⟩
  · obtain ⟨u₁, hu₁, -⟩ := forM_append_ok hu
    obtain ⟨s', hs', hu₁⟩ := forM_append_ok hu₁
    rw [hs] at hs'
    cases hs'
    obtain ⟨t, ht, -⟩ := forM_append_ok hu₁
    rw [← hquiet.1]
    exact (hlines [] _ hushedLine _ s t ⟨hscan, by decide, by decide, .inr ⟨_, rfl⟩, hs, ht⟩).2
      ⟨List.isEmpty_iff.1 hquiet.2, fun hany => absurd hany (by decide)⟩
  · rw [hfiles _ _ hushedRest u hscan rfl hu, List.isEmpty_iff.1 hstray.1, List.append_nil]
    exact hstray.2

/-- A list in a file that is skipped. -/
def skippedList : List Char := "'BSLint_skip_file\nx = [1\n2]".toList

/-- After a directive to skip the file there is a warning. -/
theorem read_skippedList :
    ∃ r s, (read (withSkips [.missingComma]) skippedList).run fresh = .ok () r ∧
      (scan skippedList).1.head? = some (skipping .skipFile) ∧
      readLexeme (withSkips [.missingComma]) (skipping .skipFile) (fresh.start skippedList) =
        .ok () s ∧
      s.warnings = [] ∧ r.warnings ≠ [] := by
  have hruns : ((scan skippedList).1.head? == some (skipping .skipFile) &&
      returnsWith (withSkips [.missingComma]) skippedList (!·.warnings.isEmpty)) = true := by
    decide +kernel
  have hdirective : startsWith (withSkips [.missingComma]) skippedList [skipping .skipFile]
      (·.warnings.isEmpty) = true := by
    decide +kernel
  rw [Bool.and_eq_true, beq_iff_eq] at hruns
  obtain ⟨r, h, hr⟩ := exists_of_returnsWith hruns.2
  obtain ⟨s, hs, hnone⟩ := exists_of_startsWith hdirective
  obtain ⟨⟨⟩, s₁, hone, hdone⟩ := bind_ok hs
  cases hdone
  exact ⟨r, s, h, hruns.1, hone, List.isEmpty_iff.1 hnone, by simpa using hr⟩

end Reading

end BrightLint
