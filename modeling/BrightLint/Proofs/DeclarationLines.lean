import BrightLint.Proofs.LineReports
import BrightLint.Proofs.NestedIndentation

/-!
Declarations of methods and the lines on which they stand. A word that starts a declaration calls
for a check of its spacing, and what is checked is not the declaration, nor its line, but the text
as a whole: whether the text starts with a declaration that is well spaced. So all declarations of a
text are judged alike, each of them as the first line would have it, and a text that starts with a
comment is never complained of.

* `Text.startsDeclaration`, `Text.declaresFirst`: lines that start with a declaration, and lines on
  which none starts later
* `Check.reportsSpacing`: whether the check of a declaration complains of a text
* `Check.reportsSpacing_firstLine`: a text is complained of only if its first line is
* `Ledger.warnings_word`, `Reading.ReadsLine.warnings_declaration`: what a lexeme and what a line
  adds to the warnings
* `Reading.read_declarations`: the warnings about declarations
-/

namespace BrightLint

/-! ### Lines with declarations -/

/-- Whether a lexeme is a word that starts a declaration. -/
def Lexeme.declares (x : Lexeme) : Bool := x.kind == .functionWord || x.kind == .subWord

namespace Text

/-- The lexemes of a line that give a token. -/
def tokenLexemes (l : List Char) : List Lexeme := (scan l).1.filter Lexeme.givesToken

/-- Whether the first token of a line starts a declaration. -/
def startsDeclaration (l : List Char) : Bool := (tokenLexemes l).head?.any Lexeme.declares

/-- Whether no token of a line but the first starts a declaration. -/
def declaresFirst (l : List Char) : Bool := (tokenLexemes l).tail.all (!·.declares)

/-- On such a line there is one declaration at most. -/
theorem countP_declares {l : List Char} (h : declaresFirst l = true) :
    (scan l).1.countP Lexeme.declares = if startsDeclaration l then 1 else 0 := by
  have htokens : (scan l).1.countP Lexeme.declares = (tokenLexemes l).countP Lexeme.declares := by
    unfold tokenLexemes
    rw [List.countP_filter]
    refine List.countP_congr fun x _ => ?_
    have hgives : x.declares = true → x.givesToken = true := by
      unfold Lexeme.declares Lexeme.givesToken
      intro hx
      rcases Bool.or_eq_true_iff.1 hx with hk | hk <;> rw [beq_iff_eq.1 hk] <;> rfl
    rw [Bool.and_eq_true, and_iff_left_of_imp hgives]
  unfold declaresFirst at h
  unfold startsDeclaration
  rw [htokens]
  generalize tokenLexemes l = xs at h
  cases xs with
  | nil => rfl
  | cons x xs =>
    have hnone : xs.countP Lexeme.declares = 0 :=
      List.countP_eq_zero.2 fun y hy => by simpa using List.all_eq_true.1 h y hy
    rw [List.countP_cons, hnone, Nat.zero_add]
    rfl

/-- There is something on a line that starts with a declaration. -/
theorem exists_solid_of_declaration {l : List Char} (hl : '\n' ∉ l)
    (h : startsDeclaration l = true) : ∃ c ∈ l, isBlank c = false := by
  unfold startsDeclaration at h
  obtain ⟨x, hx, hdeclares⟩ := (Option.any_eq_true _ _).1 h
  have hmem : x ∈ (scan l).1 := (List.mem_filter.1 (List.mem_of_head? hx)).1
  refine exists_solid hl hmem fun hblank => ?_
  rw [Lexeme.declares, hblank] at hdeclares
  cases hdeclares

/-- There is no line feed on the first line. -/
theorem notMem_firstLine (s : List Char) : '\n' ∉ firstLine s := by
  intro hmem
  have hline : (firstLine s).all (· != '\n') = true := List.all_takeWhile
  cases List.all_eq_true.1 hline '\n' hmem

/-- What holds of every line holds of the lines by number. -/
theorem forall_lineAt {ls : List (List Char)} {P : List Char → Prop} :
    (∀ i, 1 ≤ i → i ≤ ls.length → P (lineAt ls i)) ↔ ∀ l ∈ ls, P l := by
  constructor
  · intro h l hl
    obtain ⟨before, after, rfl⟩ := List.append_of_mem hl
    have hline : lineAt (before ++ l :: after) (1 + before.length) = l := lineAt_of_split rfl
    exact hline ▸ h (1 + before.length) (Nat.le_add_right _ _) (by simp; omega)
  · intro h i hone hle
    have hi : i - 1 < ls.length := by omega
    have hline : lineAt ls i = ls.get ⟨i - 1, hi⟩ := by
      rw [lineAt, List.getD_eq_getElem?_getD, List.getElem?_eq_getElem hi]
      rfl
    exact hline ▸ h _ (List.get_mem ls _)

end Text

/-! ### The check -/

namespace Check

variable {s : Settings} {text : List Char}

/-- Whether the check of a declaration complains of a text. -/
def reportsSpacing (s : Settings) (text : List Char) : Bool :=
  !(complaintsOf (findDeclarationSpacing s text)).isEmpty

theorem gives_declarationSpacing (s : Settings) (text : List Char) :
    Gives (fun v => v = none ∨ v = some ⟨.declarationSpacing, []⟩)
      (findDeclarationSpacing s text) := by
  refine Gives.bind fun b => ?_
  split
  · exact gives_ok (.inl rfl)
  · refine Gives.bind fun v => Gives.bind fun fits => ?_
    split
    · exact gives_ok (.inl rfl)
    · exact gives_ok (.inr rfl)

/-- The check has one complaint only. -/
theorem complaintsOf_declarationSpacing (s : Settings) (text : List Char) :
    complaintsOf (findDeclarationSpacing s text) =
      if reportsSpacing s text then [⟨.declarationSpacing, []⟩] else [] := by
  unfold reportsSpacing
  cases h : findDeclarationSpacing s text with
  | error f => rfl
  | ok v => rcases gives_declarationSpacing s text v h with rfl | rfl <;> rfl

/-- A text is complained of if it does not start with a comment, and what follows the white space at
its start is no well spaced declaration. -/
theorem reportsSpacing_iff (hs : s.isActive .declarationSpacing = .ok true) :
    reportsSpacing s text = true ↔ startsRemark text = false ∧
      ∃ count fits, s.param .declarationSpacing "method_spaces" = .ok count ∧
        declarationTest count = .ok fits ∧ fits (text.dropWhile Text.isBlank) = false := by
  unfold reportsSpacing findDeclarationSpacing
  rw [hs]
  cases hremark : startsRemark text with
  | true => simp [bind, Except.bind, pure, Except.pure, complaintsOf]
  | false =>
    cases hcount : s.param .declarationSpacing "method_spaces" with
    | error f => simp [bind, Except.bind, complaintsOf]
    | ok count =>
      cases hfits : declarationTest count with
      | error f => simp [bind, Except.bind, complaintsOf, hfits]
      | ok fits =>
        cases hfit : fits (text.dropWhile Text.isBlank) <;>
          simp [bind, Except.bind, pure, Except.pure, complaintsOf, hfits, hfit]

theorem endsFreely_literalFolded (w : List Char) : (Pattern.literalFolded w).endsFreely = true := by
  induction w with
  | nil => rfl
  | cons c w ih => exact ih

theorem endsFreely_declarationPattern {gap : Pattern} (h : gap.endsFreely = true) :
    (declarationPattern gap).endsFreely = true := by
  simp [declarationPattern, Pattern.chain, Pattern.endsFreely, Pattern.optional, Pattern.many,
    Pattern.many1, Pattern.char, nameChar, endsFreely_literalFolded, h]

theorem endsFreely_exactly {k : Int} {gap : Pattern}
    (h : Pattern.blank.exactly? .literalFolded k = .ok gap) : gap.endsFreely = true := by
  unfold Pattern.exactly? at h
  split at h
  · cases h
    exact endsFreely_literalFolded _
  · split at h
    · cases h
    · cases h
      rfl

/-- **The first line speaks for the text.** If the spaces are a number, a text is complained of only
if its first line is, unless there is nothing on that line. -/
theorem reportsSpacing_firstLine (hs : s.isActive .declarationSpacing = .ok true) {k : Int}
    (hk : s.param .declarationSpacing "method_spaces" = .ok (.int k))
    (hsolid : ∃ c ∈ Text.firstLine text, Text.isBlank c = false)
    (h : reportsSpacing s text = true) : reportsSpacing s (Text.firstLine text) = true := by
  by_cases hmem : '\n' ∈ text
  · obtain ⟨l, rest, rfl, hl⟩ := List.eq_append_cons_of_mem hmem
    have hfirst : Text.firstLine (l ++ '\n' :: rest) = l :=
      firstLine_line.trans (Text.firstLine_inline hl)
    rw [hfirst] at hsolid ⊢
    obtain ⟨c, hc, hblank⟩ := hsolid
    have hdrop : l.dropWhile Text.isBlank ≠ [] := by
      intro hnil
      have hall := List.all_takeWhile (p := Text.isBlank) (l := l)
      have hl := List.takeWhile_append_dropWhile (p := Text.isBlank) (l := l)
      rw [hnil, List.append_nil] at hl
      rw [hl, List.all_eq_true] at hall
      exact Bool.false_ne_true (hblank.symm.trans (hall c hc))
    rw [reportsSpacing_iff hs] at h ⊢
    obtain ⟨hremark, count, fits, hcount, hfits, hfit⟩ := h
    rw [startsRemark_line rest (List.ne_nil_of_mem hc)] at hremark
    refine ⟨hremark, count, fits, hcount, hfits, ?_⟩
    -- what fits the line fits the text
    cases hk.symm.trans hcount
    obtain ⟨gap, hgap, rfl⟩ : ∃ gap, Pattern.blank.exactly? .literalFolded k = .ok gap ∧
        (declarationPattern gap).fits = fits := by
      change (Pattern.blank.exactly? .literalFolded k).map _ = .ok fits at hfits
      cases hgap : Pattern.blank.exactly? .literalFolded k with
      | error f =>
        rw [hgap] at hfits
        cases hfits
      | ok gap =>
        rw [hgap] at hfits
        exact ⟨gap, rfl, Except.ok.inj hfits⟩
    rw [List.dropWhile_append, if_neg (by simpa using hdrop)] at hfit
    refine Bool.eq_false_iff.2 fun hline => ?_
    have htext := Pattern.fits_append
      (endsFreely_declarationPattern (endsFreely_exactly hgap)) ('\n' :: rest) hline
    rw [hfit] at htext
    cases htext
  · rwa [Text.firstLine_inline hmem]

end Check

/-! ### Lexemes -/

namespace Ledger

variable {p : Profile} {l : Ledger} {x : Lexeme}

/-- If only declarations are checked, other words have nothing to say. -/
theorem complaints_kind (hp : p.settings.Only .declarationSpacing) (x : Lexeme) (here : Place) :
    (Topic.kind x.kind).complaints p x.text here =
      if x.declares && Check.reportsSpacing p.settings here.text then
        [⟨.declarationSpacing, []⟩] else [] := by
  have hdeclares : x.declares = (x.kind.inspection? == some .declaration) := by
    unfold Lexeme.declares
    cases x.kind <;> rfl
  rw [Topic.complaints_of_inactive (hp.others .spelling (by decide))
    (hp.others .comment (by decide)) (hp.others .operatorSpacing (by decide))
    (hp.others .tracing (by decide)), Check.complaintsOf_declarationSpacing, hdeclares]
  simp only [Topic.inspection?, Bool.and_eq_true, beq_iff_eq]
  by_cases hi : x.kind.inspection? = some .declaration <;> simp [hi]

/-- **A lexeme on a line** adds a warning if it starts a declaration and the text as a whole is
complained of. -/
theorem warnings_word (hp : p.settings.Only .declarationSpacing) (hl : l.IsOpen)
    (hline : x.kind ≠ .newLine) (hdirective : x.kind ≠ .directive) (here : Place) (o : Outline) :
    (l.next p x here o).warnings =
      (if x.declares && Check.reportsSpacing p.settings here.text then
        [⟨⟨.declarationSpacing, []⟩, here.line⟩] else []) ++ l.warnings := by
  unfold next
  split
  · next hblank =>
    have hdeclares : x.declares = false := by rw [Lexeme.declares, hblank]; rfl
    rw [hdeclares]
    rfl
  · rw [Outline.droppedComma_inactive (hp.others .trailingComma (by decide)), warn_nil]
    unfold takeIn
    cases hrole : x.role with
    | lineEnd => exact absurd (x.kind_of_lineEnd hrole) hline
    | directive command => exact absurd (x.kind_of_directive hrole) hdirective
    | word =>
      have hchecked : { l with shift := l.shift + x.shift }.isChecked (here.beyond x).line = true :=
        hl.isChecked here.line
      simp only [meet, if_pos hchecked, inspect, heed_kind, complaints_kind hp, warn]
      rw [show (here.beyond x).text = here.text from rfl]
      split <;> rfl

/-- **The end of a line** only counts the line. -/
theorem checkLine_quiet (hp : p.settings.Only .declarationSpacing) (hl : l.IsOpen) (here : Place) :
    l.checkLine p here = l.countLine := by
  have hnone : lineComplaints p here l.countLine.emptyLines = [] := by
    rw [lineComplaints_eq (hp.others .lineLength (by decide))
      (hp.others .trailingBlank (by decide))]
    exact complaintsOf_inactive (hp.others .emptyLines (by decide)) _
  rw [checkLine_reports (hp.others .indentation (by decide)) hl, hnone, warn_nil]

end Ledger

namespace Reading

variable {p : Profile} {text : List Char} {r r' : Reading}

/-- The lexemes of a line add a warning for each declaration. -/
theorem warnings_words (hp : p.settings.Only .declarationSpacing) {xs : List Lexeme}
    (hxs : ∀ x ∈ xs, x.kind ≠ .newLine ∧ x.kind ≠ .directive) (hr : r.ledger.IsOpen)
    (h : xs.forM (readLexeme p) r = .ok () r') :
    r'.ledger.IsOpen ∧ r'.ledger.warnings =
      List.replicate (if Check.reportsSpacing p.settings r.place.text then
        xs.countP Lexeme.declares else 0) ⟨⟨.declarationSpacing, []⟩, r.place.line⟩ ++
        r.ledger.warnings := by
  induction xs generalizing r with
  | nil =>
    cases h
    exact ⟨hr, by simp⟩
  | cons x xs ih =>
    obtain ⟨⟨hline, hdirective⟩, hxs⟩ := List.forall_mem_cons.1 hxs
    obtain ⟨⟨⟩, r₁, hone, hrest⟩ := bind_ok h
    have hplace := place_readLexeme hone
    rw [Place.past, if_neg hline] at hplace
    have hledger := ledger_readLexeme hone
    have hopen : r₁.ledger.IsOpen := hledger ▸ hr.next hdirective r.place r.outline
    obtain ⟨hopen', hwarnings⟩ := ih hxs hopen hrest
    refine ⟨hopen', ?_⟩
    rw [hwarnings, hplace, hledger, Ledger.warnings_word hp hr hline hdirective, List.countP_cons]
    simp only [Place.beyond]
    by_cases hreports : Check.reportsSpacing p.settings r.place.text = true <;>
      by_cases hx : x.declares = true <;> simp [hreports, hx, List.replicate_succ']

/-- **A line** without directives adds a warning if a declaration starts it. -/
theorem ReadsLine.warnings_declaration {done : List (List Char)} {l : List Char} {s s₁ : Reading}
    (h : ReadsLine p text done l s s₁) (hp : p.settings.Only .declarationSpacing)
    (hdirective : ∀ x ∈ (scan l).1, x.kind ≠ .directive) (hfirst : Text.declaresFirst l = true)
    (hs : s.ledger.IsOpen) :
    s₁.ledger.IsOpen ∧ s₁.ledger.warnings =
      (if Text.startsDeclaration l && Check.reportsSpacing p.settings text then
        [⟨⟨.declarationSpacing, []⟩, 1 + done.length⟩] else []) ++ s.ledger.warnings := by
  obtain ⟨hopen, hwarnings⟩ := warnings_words hp
    (fun x hx => ⟨Lexeme.kind_of_mem_line h.inline hx, hdirective x hx⟩) hs h.lexemes
  refine ⟨hopen, ?_⟩
  rw [hwarnings, h.start, Text.countP_declares hfirst]
  simp only [Place.onLine]
  by_cases hreports : Check.reportsSpacing p.settings text = true <;>
    by_cases hl : Text.startsDeclaration l = true <;> simp [hreports, hl]

section Lines

variable (hp : p.settings.Only .declarationSpacing)
  (hdirective : ∀ l ∈ text.splitOn '\n', ∀ x ∈ (scan l).1, x.kind ≠ .directive)
  (hfirst : ∀ l ∈ text.splitOn '\n', Text.declaresFirst l = true)

include hp hdirective hfirst

/-- A line and its end. -/
theorem ReadsLine.reports_declaration {done rest : List (List Char)} {l : List Char}
    {s s₁ : Reading} (h : ReadsLine p text done l s s₁)
    (hsplit : text.splitOn '\n' = done ++ l :: rest)
    (hs : s.ledger.Reports ⟨.declarationSpacing, []⟩
      (fun i => Text.startsDeclaration (Text.lineAt (text.splitOn '\n') i) &&
        Check.reportsSpacing p.settings text) done) (here : Place) :
    (s₁.ledger.checkLine p here).Reports ⟨.declarationSpacing, []⟩
      (fun i => Text.startsDeclaration (Text.lineAt (text.splitOn '\n') i) &&
        Check.reportsSpacing p.settings text) (done ++ [l]) := by
  have hl : l ∈ text.splitOn '\n' := by simp [hsplit]
  obtain ⟨hopen, hwarnings⟩ :=
    h.warnings_declaration hp (hdirective l hl) (hfirst l hl) hs.isOpen
  rw [Ledger.checkLine_quiet hp hopen]
  refine ⟨hopen.countLine, ?_⟩
  rw [Ledger.countLine_eq, hwarnings, List.reverse_append, hs.warnings, List.length_append,
    List.length_singleton, lineWarnings_succ, Text.lineAt_of_split hsplit]
  split <;> rfl

/-- **All lines of a text**, of which the text ends the last. -/
theorem reports_declarations (h : (read p text).run fresh = .ok () r)
    (hproblems : r.problems = []) :
    r.ledger.Reports ⟨.declarationSpacing, []⟩
      (fun i => Text.startsDeclaration (Text.lineAt (text.splitOn '\n') i) &&
        Check.reportsSpacing p.settings text) (text.splitOn '\n') := by
  have hkept : KeptByLines p text fun done s => s.ledger.Reports ⟨.declarationSpacing, []⟩
      (fun i => Text.startsDeclaration (Text.lineAt (text.splitOn '\n') i) &&
        Check.reportsSpacing p.settings text) done := by
    intro done l rest s s₁ s₂ htext hsplit hreports hreads hfeed
    rw [ledger_readLexeme hfeed, Ledger.next_lineFeed,
      Outline.missingComma_inactive (hp.others .missingComma (by decide)), Ledger.warn_nil]
    exact hreads.reports_declaration hp hdirective hfirst hsplit hreports _
  obtain ⟨done, last, s, s₁, -, hsplit, hreports, hreads, hfinish⟩ :=
    hkept.read ⟨⟨rfl, fun n hn => by cases hn⟩, rfl⟩ h ((problems_eq_nil_iff h).1 hproblems)
  have hlast := hreads.reports_declaration hp hdirective hfirst hsplit hreports s₁.place
  rwa [← ledger_finish hfinish, ← hsplit] at hlast

end Lines

/-- **Declarations.** If only the spacing of declarations is checked, then the warnings about a text
that can be cut up to its end, that has no directives, and on no line of which a declaration starts
after another token, are one for each line that starts with a declaration if the text as a whole is
complained of, and none otherwise. So the declarations are judged by their own lines if and only if
each of these lines is judged like the text. If the first line starts with a declaration that is
well spaced, nothing is complained of, whatever stands on the other lines. -/
theorem read_declarations (p : Profile) (hp : p.settings.Only .declarationSpacing)
    (text : List Char) (hdirective : ∀ l ∈ text.splitOn '\n', ∀ x ∈ (scan l).1, x.kind ≠ .directive)
    (hfirst : ∀ l ∈ text.splitOn '\n', Text.declaresFirst l = true) (r : Reading)
    (h : (read p text).run fresh = .ok () r) (hproblems : r.problems = []) :
    r.warnings.reverse = lineWarnings ⟨.declarationSpacing, []⟩
      (fun i => Text.startsDeclaration (Text.lineAt (text.splitOn '\n') i) &&
        Check.reportsSpacing p.settings text) (text.splitOn '\n').length ∧
    (r.warnings.reverse = lineWarnings ⟨.declarationSpacing, []⟩
      (fun i => Text.startsDeclaration (Text.lineAt (text.splitOn '\n') i) &&
        Check.reportsSpacing p.settings (Text.lineAt (text.splitOn '\n') i))
      (text.splitOn '\n').length ↔
        ∀ l ∈ text.splitOn '\n', Text.startsDeclaration l = true →
          Check.reportsSpacing p.settings text = Check.reportsSpacing p.settings l) ∧
    (∀ k : Int, p.settings.param .declarationSpacing "method_spaces" = .ok (.int k) →
      Text.startsDeclaration (Text.firstLine text) = true →
      Check.reportsSpacing p.settings (Text.firstLine text) = false → r.warnings = []) := by
  have hall : r.warnings.reverse = lineWarnings ⟨.declarationSpacing, []⟩
      (fun i => Text.startsDeclaration (Text.lineAt (text.splitOn '\n') i) &&
        Check.reportsSpacing p.settings text) (text.splitOn '\n').length :=
    (reports_declarations hp hdirective hfirst h hproblems).warnings
  refine ⟨hall, ?_, fun k hk hdeclares hfits => ?_⟩
  · rw [hall, lineWarnings_inj, Text.forall_lineAt (P := fun l =>
      (Text.startsDeclaration l && Check.reportsSpacing p.settings text) =
        (Text.startsDeclaration l && Check.reportsSpacing p.settings l))]
    refine forall₂_congr fun l _ => ?_
    cases Text.startsDeclaration l <;> simp
  · have htext : Check.reportsSpacing p.settings text = false := by
      refine Bool.eq_false_iff.2 fun htext => ?_
      have hline := Check.reportsSpacing_firstLine hp.active hk (Text.exists_solid_of_declaration
        (Text.notMem_firstLine text) hdeclares) htext
      rw [hfits] at hline
      cases hline
    have hnone : r.warnings.reverse = [] := by
      rw [hall, htext, lineWarnings]
      simp
    exact List.reverse_eq_nil_iff.1 hnone

/-- Settings under which one space is to stand in a declaration, and nothing else is checked. -/
def oneSpace : Settings := .single .declarationSpacing (.obj [("method_spaces", .int 1)])

/-- Two declarations after another line, of which only the first is well spaced. -/
def lateDeclarations : List Char :=
  "x = 1\nfunction f()\nend function\n  sub  g( )\nend sub".toList

/-- Both declarations are complained of. -/
theorem read_declarations_lateDeclarations :
    ∃ r, (read ⟨oneSpace, fun _ => true⟩ lateDeclarations).run fresh = .ok () r ∧
      r.problems = [] ∧ r.warnings.reverse =
        [⟨⟨.declarationSpacing, []⟩, 2⟩, ⟨⟨.declarationSpacing, []⟩, 4⟩] := by
  have hfacts : (returnsWith ⟨oneSpace, fun _ => true⟩ lateDeclarations (·.problems == []) &&
      ((lateDeclarations.splitOn '\n').all (fun l => (scan l).1.all (·.kind != .directive)) &&
      ((lateDeclarations.splitOn '\n').all Text.declaresFirst &&
        (List.range' 1 (lateDeclarations.splitOn '\n').length).filter
          (fun i => Text.startsDeclaration (Text.lineAt (lateDeclarations.splitOn '\n') i) &&
            Check.reportsSpacing oneSpace lateDeclarations) == [2, 4]))) = true := by
    decide +kernel
  simp only [Bool.and_eq_true, beq_iff_eq] at hfacts
  obtain ⟨hreturns, hdirective, hfirst, hlines⟩ := hfacts
  obtain ⟨r, h, hr⟩ := exists_of_returnsWith hreturns
  have hwarnings := (read_declarations _ (Settings.only_single _ _) lateDeclarations
    (fun l hl x hx => bne_iff_ne.1 (List.all_eq_true.1 (List.all_eq_true.1 hdirective l hl) x hx))
    (fun l hl => List.all_eq_true.1 hfirst l hl) r h (beq_iff_eq.1 hr)).1
  rw [lineWarnings, hlines] at hwarnings
  exact ⟨r, h, beq_iff_eq.1 hr, hwarnings⟩

/-- A well spaced declaration after another line. -/
def lateDeclaration : List Char := "x = 1\nfunction f()\nend function".toList

/-- A well spaced declaration is complained of if another line stands before it: no line by itself
is complained of, and there is a warning. -/
theorem read_lateDeclaration :
    ∃ r, (read ⟨oneSpace, fun _ => true⟩ lateDeclaration).run fresh = .ok () r ∧
      r.problems = [] ∧ r.warnings.map Warning.line = [2] ∧
      ∀ l ∈ lateDeclaration.splitOn '\n', Text.startsDeclaration l = true →
        Check.reportsSpacing oneSpace l = false := by
  have hfacts : (returnsWith ⟨oneSpace, fun _ => true⟩ lateDeclaration
      (fun r => r.problems == [] && r.warnings.map Warning.line == [2]) &&
      (lateDeclaration.splitOn '\n').all (fun l => !Text.startsDeclaration l ||
        !Check.reportsSpacing oneSpace l)) = true := by
    decide +kernel
  simp only [Bool.and_eq_true] at hfacts
  obtain ⟨hreturns, hlines⟩ := hfacts
  obtain ⟨r, h, hr⟩ := exists_of_returnsWith hreturns
  simp only [Bool.and_eq_true, beq_iff_eq] at hr
  refine ⟨r, h, hr.1, hr.2, fun l hl hdeclares => ?_⟩
  have hline := List.all_eq_true.1 hlines l hl
  rwa [hdeclares, Bool.not_true, Bool.false_or, Bool.not_eq_true'] at hline

end Reading

end BrightLint
