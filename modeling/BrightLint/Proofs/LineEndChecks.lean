import BrightLint.Proofs.LineByLine

/-!
Checks at the ends of lines. If no check is active but those that are made at the end of a line, the
lexemes of a line only say how it shifts the indentation, and whether there is anything on it that
counts. All warnings are about lines then.

* `Settings.OnlyLines`, `Settings.Only`: settings under which only the ends of lines are checked,
  and under which a single check is active
* `lineWarnings`: the warnings about lines with a property
* `Settings.single`: settings with a single check
* `Topic.complaints_of_inactive`: what lexemes call for
* `Ledger.IsOpen`: nothing is skipped
* `Ledger.Crosses`, `Reading.ReadsLine.crosses`: what the lexemes of a line do
-/

namespace BrightLint

/-! ### Settings -/

/-- Whether a check is made at the end of a line. -/
def Check.isAtLineEnd : Check → Bool
  | .indentation | .lineLength | .emptyLines | .trailingBlank => true
  | _ => false

/-- Different checks have different entries. -/
theorem Check.key_injective {c d : Check} (h : c.key = d.key) : c = d := by
  cases c <;> cases d <;> simp [key] at h ⊢

namespace Settings

/-- Settings under which nothing is checked but the ends of lines, and nothing is skipped. -/
def OnlyLines (s : Settings) : Prop :=
  ∀ c : Check, c.isAtLineEnd = false → s.isActive c = .ok false

/-- Settings under which a single check is active. -/
structure Only (c : Check) (s : Settings) : Prop where
  active : s.isActive c = .ok true
  others : ∀ d, d ≠ c → s.isActive d = .ok false

theorem Only.onlyLines {c : Check} {s : Settings} (h : s.Only c) (hc : c.isAtLineEnd = true) :
    s.OnlyLines := by
  intro d hd
  refine h.others d ?_
  rintro rfl
  rw [hc] at hd
  cases hd

/-- Settings with an entry for one check only, which is active. -/
def single (c : Check) (params : Json) : Settings :=
  .obj [(c.key, .obj [("active", .bool true), ("params", params)])]

theorem only_single (c : Check) (params : Json) : (single c params).Only c := by
  have hentry : ∀ d : Check, Settings.entry? (single c params) (.str d.key) =
      .ok (if d = c then some (.obj [("active", .bool true), ("params", params)]) else none) := by
    intro d
    simp only [single, Settings.entry?, Json.field?, List.lookup_cons]
    by_cases hd : d = c
    · simp [hd]
    · have hkey : Json.Key.text d.key ≠ .text c.key := fun h =>
        hd (Check.key_injective (Json.Key.text.inj h))
      rw [if_neg hd, beq_eq_false_iff_ne.2 hkey]
      rfl
  constructor
  · unfold isActive activity
    rw [hentry, if_pos rfl]
    rfl
  · intro d hd
    unfold isActive activity
    rw [hentry, if_neg hd]
    rfl

end Settings

theorem complaintsOf_inactive {s : Settings} {c : Check} (h : s.isActive c = .ok false)
    (body : Verdict) : complaintsOf (whenActive s c body) = [] := by
  rw [whenActive_of_inactive h]
  rfl

theorem Outline.missingComma_inactive {s : Settings} (h : s.isActive .missingComma = .ok false)
    (o : Outline) : o.missingComma s = [] := by
  unfold missingComma
  split
  · exact complaintsOf_inactive h _
  · rfl

theorem Outline.droppedComma_inactive {s : Settings} (h : s.isActive .trailingComma = .ok false)
    (o : Outline) : o.droppedComma s = [] := by
  unfold droppedComma
  split
  · exact complaintsOf_inactive h _
  · rfl

/-- **What a lexeme calls for**, if only its spacing as a declaration is still to be checked. -/
theorem Topic.complaints_of_inactive {p : Profile}
    (hspelling : p.settings.isActive .spelling = .ok false)
    (hcomment : p.settings.isActive .comment = .ok false)
    (hoperator : p.settings.isActive .operatorSpacing = .ok false)
    (htracing : p.settings.isActive .tracing = .ok false) (t : Topic) (piece : List Char)
    (here : Place) :
    t.complaints p piece here = if t.inspection? = some .declaration then
      complaintsOf (Check.findDeclarationSpacing p.settings here.text) else [] := by
  have hspells : spellingComplaints p t piece = [] := by
    unfold spellingComplaints Check.findSpelling
    rw [hspelling]
    rfl
  unfold Topic.complaints
  cases t.inspection? with
  | none => rfl
  | some i =>
    cases i with
    | comment =>
      simp only [hspells, Check.findComment]
      rw [whenActive_of_inactive hcomment]
      rfl
    | operator => exact complaintsOf_inactive hoperator _
    | spelling => exact hspells
    | tracing => exact complaintsOf_inactive htracing _
    | declaration => rfl
    | skipLine => rfl
    | skipFile => rfl

theorem Settings.OnlyLines.topicComplaints {p : Profile} (h : p.settings.OnlyLines) (t : Topic)
    (piece : List Char) (here : Place) : t.complaints p piece here = [] := by
  rw [Topic.complaints_of_inactive (h .spelling rfl) (h .comment rfl) (h .operatorSpacing rfl)
    (h .tracing rfl)]
  split
  · unfold Check.findDeclarationSpacing
    rw [h .declarationSpacing rfl]
    rfl
  · rfl

/-- The warnings about those of the first `n` lines that have a property, all with one
complaint. -/
def lineWarnings (c : Complaint) (f : Nat → Bool) (n : Nat) : List Warning :=
  ((List.range' 1 n).filter f).map (⟨c, ·⟩)

/-- One more line. -/
theorem lineWarnings_succ (c : Complaint) (f : Nat → Bool) (n : Nat) :
    lineWarnings c f (n + 1) = lineWarnings c f n ++ if f (1 + n) then [⟨c, 1 + n⟩] else [] := by
  unfold lineWarnings
  rw [List.range'_1_concat, List.filter_append, List.map_append]
  congr 1
  split <;> simp [*]

/-- The warnings say which lines have the property. -/
theorem lineWarnings_inj {c : Complaint} {f g : Nat → Bool} {n : Nat} :
    lineWarnings c f n = lineWarnings c g n ↔ ∀ i, 1 ≤ i → i ≤ n → f i = g i := by
  unfold lineWarnings
  rw [List.map_inj_right fun _ _ h => congrArg Warning.line h]
  constructor
  · intro h i hone hle
    have hmem : i ∈ List.range' 1 n := List.mem_range'_1.2 ⟨hone, by omega⟩
    have hsame : i ∈ (List.range' 1 n).filter f ↔ i ∈ (List.range' 1 n).filter g := by rw [h]
    simpa only [List.mem_filter, hmem, true_and, ← Bool.eq_iff_iff] using hsame
  · intro h
    refine List.filter_congr fun i hi => ?_
    obtain ⟨hone, hlt⟩ := List.mem_range'_1.1 hi
    exact h i hone (by omega)

namespace Ledger

variable {p : Profile} {l l' l'' : Ledger} {x : Lexeme}

/-- The warning about one more line. -/
theorem lineWarnings_warn {c : Complaint} {f : Nat → Bool} {n : Nat} {here : Place}
    (h : l.warnings.reverse = lineWarnings c f n) (hhere : here.line = 1 + n) :
    (l.warn (if f (1 + n) then [c] else []) here).warnings.reverse = lineWarnings c f (n + 1) := by
  rw [lineWarnings_succ, ← h, ← hhere]
  unfold warn
  split <;> simp

/-- If the length of a line is not checked and white space may end it, the number of empty lines is
what is left to check, the indentation apart. -/
theorem lineComplaints_eq (hlong : p.settings.isActive .lineLength = .ok false)
    (hblank : p.settings.isActive .trailingBlank = .ok false) (here : Place) (n : Nat) :
    lineComplaints p here n = complaintsOf (Check.findEmptyLines p.settings (.int n)) := by
  unfold lineComplaints Check.findTrailingBlank Check.findLongLine
  rw [complaintsOf_inactive hlong, complaintsOf_inactive hblank, List.append_nil, List.nil_append]

/-- An indentation that is not checked is left alone. -/
theorem indent_inactive (h : p.settings.isActive .indentation = .ok false) (line : List Char)
    (here : Place) (l : Ledger) : l.indent p line here = l := by
  unfold indent Check.findIndentation
  rw [h]
  rfl

/-- Nothing is skipped, on no line. -/
structure IsOpen (l : Ledger) : Prop where
  skipFile : l.skipFile.isTrue = false
  skipLine : ∀ n : Nat, l.skipLine ≠ some (n : Int)

theorem IsOpen.isChecked (h : l.IsOpen) (line : Nat) : l.isChecked line = true :=
  isChecked_iff.2 ⟨h.skipLine line, h.skipFile⟩

theorem IsOpen.warn (h : l.IsOpen) (cs : List Complaint) (here : Place) : (l.warn cs here).IsOpen :=
  ⟨h.skipFile, h.skipLine⟩

theorem IsOpen.countLine (h : l.IsOpen) : l.countLine.IsOpen := by
  unfold Ledger.countLine
  split <;> exact ⟨h.skipFile, h.skipLine⟩

/-- Lexemes that only say how they shift the indentation, and whether they count. -/
structure Crosses (xs : List Lexeme) (l l' : Ledger) : Prop where
  isEmptyLine : l'.isEmptyLine = (l.isEmptyLine && xs.all Lexeme.isPassive)
  emptyLines : l'.emptyLines = l.emptyLines
  level : l'.level = l.level
  shift : l'.shift = l.shift + Lexeme.shiftOf xs
  warnings : l'.warnings = l.warnings
  isOpen : l'.IsOpen

/-- White space, words and directives do not complain. -/
theorem warnings_next (hp : p.settings.OnlyLines) (hx : x.kind ≠ .newLine) (here : Place)
    (o : Outline) (l : Ledger) : (l.next p x here o).warnings = l.warnings := by
  unfold next
  split
  · rfl
  · rw [Outline.droppedComma_inactive (hp .trailingComma rfl), warn_nil]
    unfold takeIn
    cases hrole : x.role with
    | lineEnd => exact absurd (x.kind_of_lineEnd hrole) hx
    | directive command =>
      obtain ⟨file, skip, hheed, -, -⟩ := heed_eq p (.directive command) (here.beyond x).line
        { l with shift := l.shift + x.shift }
      simp only [inspect, hp.topicComplaints, warn_nil, hheed]
    | word =>
      simp only [meet, inspect, hp.topicComplaints, warn_nil, heed_kind]
      split <;> rfl

/-- Where no directive to skip something is followed, nothing is skipped. -/
theorem Treads.isOpen {line : Nat} {xs : List Lexeme} (h : Treads p line xs l l')
    (hp : p.settings.OnlyLines) (hl : l.IsOpen) : l'.IsOpen := by
  constructor
  · rcases h.skipFile with hfile | hfile
    · rw [hfile]
      exact hl.skipFile
    · exact isTrue_of_skipsFile (hp .skipFile rfl) hfile
  · intro n
    rcases h.skipLine with hskip | ⟨-, hskip⟩
    · rw [hskip]
      exact hl.skipLine n
    · have hnone : Check.skippedLine p.settings line = .ok none :=
        whenActive_of_inactive (hp .skipLine rfl) _
      rw [hnone] at hskip
      rw [← Except.ok.inj hskip]
      exact fun hn => by cases hn

theorem Treads.crosses {line : Nat} {xs : List Lexeme} (h : Treads p line xs l l')
    (hp : p.settings.OnlyLines) (hl : l.IsOpen) (hwarnings : l'.warnings = l.warnings) :
    Crosses xs l l' where
  isEmptyLine := h.counted (fun hfile => absurd hfile (by rw [hl.skipFile]; decide))
    (hl.skipLine line) (h.isOpen hp hl).skipFile
  emptyLines := h.emptyLines
  level := h.level
  shift := h.shift
  warnings := hwarnings
  isOpen := h.isOpen hp hl

end Ledger

namespace Reading

variable {p : Profile} {text l : List Char} {done : List (List Char)} {r r' s s₁ : Reading}

theorem warnings_readInline (hp : p.settings.OnlyLines) {xs : List Lexeme}
    (hxs : ∀ x ∈ xs, x.kind ≠ .newLine) (h : xs.forM (readLexeme p) r = .ok () r') :
    r'.ledger.warnings = r.ledger.warnings := by
  induction xs generalizing r with
  | nil =>
    cases h
    rfl
  | cons x xs ih =>
    obtain ⟨⟨⟩, r₁, hone, hrest⟩ := bind_ok h
    rw [ih (fun y hy => hxs y (List.mem_cons_of_mem _ hy)) hrest, ledger_readLexeme hone,
      Ledger.warnings_next hp (hxs x List.mem_cons_self)]

/-- **The lexemes of a line**, if only the ends of lines are checked. -/
theorem ReadsLine.crosses (h : ReadsLine p text done l s s₁) (hp : p.settings.OnlyLines)
    (hs : s.ledger.IsOpen) : s.ledger.Crosses (scan l).1 s₁.ledger :=
  h.treads.crosses hp hs
    (warnings_readInline hp (fun _ hx => Lexeme.kind_of_mem_line h.inline hx) h.lexemes)

/-- **The end of a line**, if only the ends of lines are checked. -/
theorem ledger_lineFeed (hp : p.settings.OnlyLines) (hr : r.place = .onLine text done l)
    (h : readLexeme p .lineFeed r = .ok () r') :
    r'.ledger = r.ledger.checkLine p ((Place.onLine text done l).beyond .lineFeed) := by
  rw [ledger_readLexeme h, Ledger.next_lineFeed,
    Outline.missingComma_inactive (hp .missingComma rfl), Ledger.warn_nil, hr]

end Reading

end BrightLint
