import BrightLint.Proofs.Ledger

/-!
Reading line by line. A text that can be cut up to its end is a sequence of lines with line feeds
between them, and each line is cut by itself. So what the style checks do can be told line by line:
first the lexemes of the line, then its end, which is a line feed or the end of the text. The
lexemes say how the line shifts the indentation, whether there is anything on it that counts, and
what is to be skipped.

* `Lexeme.IsCut`: lexemes that are cut off a text
* `Place.onLine`: a place on a line
* `Reading.RelatedByLines.read`, `Reading.KeptByLines.read`: what each line keeps, a text keeps
* `Text.checkedLine`, `Place.lastLine_lineFeed`: the line that the checks at its end look at
* `Text.isBlankLine`, `Text.lineShift`, `Text.skipsNext`: what the lexemes of a line say
* `Ledger.Treads`, `Reading.ReadsLine.treads`: what the lexemes of a line do
-/

namespace BrightLint

/-! ### Lexemes that are cut off a text -/

namespace Lexeme

/-- A lexeme that is cut off a text. -/
def IsCut (x : Lexeme) : Prop := ∃ s, first? s = some x

variable {x : Lexeme}

theorem isCut_of_mem {s : List Char} (h : x ∈ (scan s).1) : x.IsCut := by
  obtain ⟨ys, zs, hsplit⟩ := List.append_of_mem h
  exact first?_of_mem hsplit

theorem IsCut.rule (h : x.IsCut) : ∃ rule ∈ lexemeRules, ∃ s, rule.read? s = some x := by
  obtain ⟨s, hs⟩ := h
  obtain ⟨rule, hrule, hx⟩ := List.exists_of_findSome?_eq_some hs
  exact ⟨rule, hrule, s, hx⟩

theorem lexemeRules_blank : ∀ rule ∈ lexemeRules, rule.kind = .blank → rule.shift = 0 := by
  decide +kernel

/-- White space does not shift the indentation. -/
theorem IsCut.shift_of_blank (h : x.IsCut) (hx : x.kind = .blank) : x.shift = 0 := by
  obtain ⟨rule, hrule, s, hread⟩ := h.rule
  obtain ⟨⟨t, q⟩, -, rfl⟩ := Option.map_eq_some_iff.1 hread
  exact lexemeRules_blank rule hrule hx

theorem lexemeRules_directive :
    ∀ rule ∈ lexemeRules, rule.kind = .directive → rule.shape = .directive := by
  decide +kernel

/-- What counts as a directive has a command. -/
theorem IsCut.role_of_directive (h : x.IsCut) (hx : x.kind = .directive) :
    ∃ command, x.role = .directive command := by
  obtain ⟨rule, hrule, s, hread⟩ := h.rule
  obtain ⟨⟨t, q⟩, ht, rfl⟩ := Option.map_eq_some_iff.1 hread
  rw [lexemeRules_directive rule hrule hx] at ht
  obtain ⟨content, hcontent, he⟩ := Option.map_eq_some_iff.1 ht
  have hcommand : ∃ command param, content = .directive command param := by
    unfold readDirective? at hcontent
    simp only [Option.bind_eq_bind, Option.bind_eq_some_iff] at hcontent
    obtain ⟨_, -, body, -, hbody⟩ := hcontent
    split at hbody
    · cases hbody
    · cases hbody
      exact ⟨_, _, rfl⟩
  obtain ⟨command, param, rfl⟩ := hcommand
  cases he
  refine ⟨command, ?_⟩
  change rule.kind = .directive at hx
  simp only [role, hx]

/-- On a line there is no end of a line. -/
theorem kind_of_mem_line {l : List Char} (hl : '\n' ∉ l) (h : x ∈ (scan l).1) :
    x.kind ≠ .newLine := by
  obtain ⟨s, hs⟩ := isCut_of_mem h
  rcases first?_lineFeed_or hs with rfl | ⟨hk, -⟩
  · have hmem : '\n' ∈ joined (scan l).1 := List.mem_flatMap.2 ⟨.lineFeed, h, List.mem_cons_self⟩
    exact absurd ((joined_scan l).1 ▸ List.mem_append_left _ hmem) hl
  · exact hk

end Lexeme

/-! ### Lines -/

/-- Lines with their ends. -/
def ended (ls : List (List Char)) : List Char := ls.flatMap (· ++ ['\n'])

theorem ended_concat (ls : List (List Char)) (l : List Char) :
    ended (ls ++ [l]) = ended ls ++ (l ++ ['\n']) := by
  simp [ended]

/-- The place on the line after some lines, if a part of it has been read. -/
def Place.onLine (text : List Char) (done : List (List Char)) (part : List Char) : Place :=
  ⟨text, ((ended done).length + part.length : Nat), 1 + done.length, part.length⟩

namespace Reading

variable {p q : Profile} {text l : List Char} {done : List (List Char)} {r r' s₁ : Reading}

theorem place_readLexemes {xs : List Lexeme} (hxs : ∀ x ∈ xs, x.kind ≠ .newLine)
    (h : xs.forM (readLexeme p) r = .ok () r') :
    r'.place = { r.place with
      position := r.place.position + (joined xs).length
      lineLength := r.place.lineLength + (joined xs).length } := by
  induction xs generalizing r with
  | nil =>
    cases h
    simp [joined]
  | cons x xs ih =>
    obtain ⟨⟨⟩, r₁, hone, hrest⟩ := bind_ok h
    have hplace := place_readLexeme hone
    rw [Place.past, if_neg (hxs x List.mem_cons_self)] at hplace
    rw [ih (fun y hy => hxs y (List.mem_cons_of_mem _ hy)) hrest, hplace]
    simp [joined, Place.beyond, Int.add_assoc, Nat.add_assoc]

/-- The lexemes of a line lead to its end. -/
theorem place_line (hl : '\n' ∉ l) (hend : (scan l).2 = [])
    (hr : r.place = .onLine text done []) (h : (scan l).1.forM (readLexeme p) r = .ok () r') :
    r'.place = .onLine text done l := by
  rw [place_readLexemes (fun x hx => Lexeme.kind_of_mem_line hl hx) h, joined_of_scan hend, hr]
  simp [Place.onLine]

/-- A line feed leads to the next line. -/
theorem place_lineFeed (hr : r.place = .onLine text done l)
    (h : readLexeme p .lineFeed r = .ok () r') : r'.place = .onLine text (done ++ [l]) [] := by
  rw [place_readLexeme h, hr, Place.past, if_pos (by rfl)]
  simp [Place.onLine, Place.beyond, ended_concat, Lexeme.lineFeed, Nat.add_assoc, Int.add_assoc]

/-- A line of a text that has been read up to its end. -/
structure ReadsLine (p : Profile) (text : List Char) (done : List (List Char)) (l : List Char)
    (s s₁ : Reading) : Prop where
  inline : '\n' ∉ l
  scan_end : (scan l).2 = []
  start : s.place = .onLine text done []
  lexemes : (scan l).1.forM (readLexeme p) s = .ok () s₁
  stop : s₁.place = .onLine text done l

/-- A relation of readings between lines that each line with its line feed keeps. -/
def RelatedByLines (p q : Profile) (text : List Char)
    (R : List (List Char) → Reading → Reading → Prop) : Prop :=
  ∀ done l rest s s₁ s₂ t t₁ t₂, text = ended done ++ (l ++ '\n' :: rest) →
    text.splitOn '\n' = done ++ l :: rest.splitOn '\n' → R done s t →
    ReadsLine p text done l s s₁ → ReadsLine q text done l t t₁ →
    readLexeme p .lineFeed s₁ = .ok () s₂ → readLexeme q .lineFeed t₁ = .ok () t₂ →
    R (done ++ [l]) s₂ t₂

/-- Two readings of the same lines are related up to the last line. -/
theorem RelatedByLines.forM {R : List (List Char) → Reading → Reading → Prop}
    (hrel : RelatedByLines p q text R) (rest : List Char) {done : List (List Char)}
    {s s' t t' : Reading} (htext : text = ended done ++ rest)
    (hsplit : text.splitOn '\n' = done ++ rest.splitOn '\n') (hend : (scan rest).2 = [])
    (hs : s.place = .onLine text done []) (ht : t.place = .onLine text done []) (hR : R done s t)
    (h : (scan rest).1.forM (readLexeme p) s = .ok () s')
    (h' : (scan rest).1.forM (readLexeme q) t = .ok () t') :
    ∃ done' last s₀ t₀, text = ended done' ++ last ∧ text.splitOn '\n' = done' ++ [last] ∧
      R done' s₀ t₀ ∧ ReadsLine p text done' last s₀ s' ∧ ReadsLine q text done' last t₀ t' := by
  by_cases hmem : '\n' ∈ rest
  · -- one line with its line feed, and then the rest of the text
    obtain ⟨l, rest', rfl, hl⟩ := List.eq_append_cons_of_mem hmem
    rw [List.splitOn_append_cons_self_of_not_mem hl] at hsplit
    rw [scan_line] at hend h h'
    by_cases hlend : (scan l).2 = []
    · rw [if_pos hlend] at hend h h'
      obtain ⟨s₁, hline, h⟩ := forM_append_ok h
      obtain ⟨t₁, hline', h'⟩ := forM_append_ok h'
      obtain ⟨⟨⟩, s₂, hfeed, h⟩ := bind_ok h
      obtain ⟨⟨⟩, t₂, hfeed', h'⟩ := bind_ok h'
      have hstop := place_line hl hlend hs hline
      have hstop' := place_line hl hlend ht hline'
      have hR₂ := hrel done l rest' s s₁ s₂ t t₁ t₂ htext hsplit hR
        ⟨hl, hlend, hs, hline, hstop⟩ ⟨hl, hlend, ht, hline', hstop'⟩ hfeed hfeed'
      refine hrel.forM rest' ?_ ?_ hend (place_lineFeed hstop hfeed) (place_lineFeed hstop' hfeed')
        hR₂ h h'
      · rw [htext, ended_concat]
        simp
      · rw [hsplit]
        simp
    · -- a line that cannot be cut up to its end leaves a rest of the text
      rw [if_neg hlend] at hend
      simp at hend
  · rw [List.splitOn_eq_singleton hmem] at hsplit
    exact ⟨done, rest, s, t, htext, hsplit, hR, ⟨hmem, hend, hs, h, place_line hmem hend hs h⟩,
      hmem, hend, ht, h', place_line hmem hend ht h'⟩
termination_by rest.length

/-- **What each line keeps, a text keeps**, up to its last line, which ends with the text: for two
readings of the text. -/
theorem RelatedByLines.read {R : List (List Char) → Reading → Reading → Prop}
    (hrel : RelatedByLines p q text R) (hstart : R [] (fresh.start text) (fresh.start text))
    (h : (Reading.read p text).run fresh = .ok () r)
    (h' : (Reading.read q text).run fresh = .ok () r') (hend : (scan text).2 = []) :
    ∃ done last s s₁ t t₁, text = ended done ++ last ∧ text.splitOn '\n' = done ++ [last] ∧
      R done s t ∧ ReadsLine p text done last s s₁ ∧ ReadsLine q text done last t t₁ ∧
      finish p [] s₁ = .ok () r ∧ finish q [] t₁ = .ok () r' := by
  obtain ⟨⟨⟩, s₁, hlex, hfinish⟩ := bind_ok
    (x := (scan text).1.forM (readLexeme p)) (s := fresh.start text) h
  obtain ⟨⟨⟩, t₁, hlex', hfinish'⟩ := bind_ok
    (x := (scan text).1.forM (readLexeme q)) (s := fresh.start text) h'
  obtain ⟨done, last, s, t, htext, hsplit, hR, hreads, hreads'⟩ :=
    hrel.forM text rfl rfl hend rfl rfl hstart hlex hlex'
  exact ⟨done, last, s, s₁, t, t₁, htext, hsplit, hR, hreads, hreads', hend ▸ hfinish,
    hend ▸ hfinish'⟩

/-- A property of readings between lines that each line with its line feed keeps. -/
def KeptByLines (p : Profile) (text : List Char) (I : List (List Char) → Reading → Prop) : Prop :=
  ∀ done l rest s s₁ s₂, text = ended done ++ (l ++ '\n' :: rest) →
    text.splitOn '\n' = done ++ l :: rest.splitOn '\n' → I done s →
    ReadsLine p text done l s s₁ → readLexeme p .lineFeed s₁ = .ok () s₂ → I (done ++ [l]) s₂

theorem ReadsLine.unique {s₁' : Reading} (h : ReadsLine p text done l r s₁)
    (h' : ReadsLine p text done l r s₁') : s₁' = s₁ := by
  have hsame := h'.lexemes
  rw [h.lexemes] at hsame
  cases hsame
  rfl

/-- **What each line keeps, a text keeps**, up to its last line, which ends with the text. -/
theorem KeptByLines.read {I : List (List Char) → Reading → Prop} (hkept : KeptByLines p text I)
    (hstart : I [] (fresh.start text)) (h : (Reading.read p text).run fresh = .ok () r)
    (hend : (scan text).2 = []) :
    ∃ done last s s₁, text = ended done ++ last ∧ text.splitOn '\n' = done ++ [last] ∧ I done s ∧
      ReadsLine p text done last s s₁ ∧ finish p [] s₁ = .ok () r := by
  have hrel : RelatedByLines p p text fun done s t => t = s ∧ I done s := by
    intro done l rest s s₁ s₂ t t₁ t₂ htext hsplit hR hreads hreads' hfeed hfeed'
    obtain ⟨rfl, hI⟩ := hR
    rw [hreads.unique hreads', hfeed] at hfeed'
    cases hfeed'
    exact ⟨rfl, hkept done l rest _ s₁ s₂ htext hsplit hI hreads hfeed⟩
  obtain ⟨done, last, s, s₁, t, t₁, htext, hsplit, ⟨-, hI⟩, hreads, -, hfinish, -⟩ :=
    hrel.read ⟨rfl, hstart⟩ h h hend
  exact ⟨done, last, s, s₁, htext, hsplit, hI, hreads, hfinish⟩

end Reading

/-! ### The line that is checked -/

namespace Text

theorem linesFrom_feed (part : Option (List Char)) (t : List Char) :
    linesFrom part ('\n' :: t) = (part.getD []).reverse :: linesFrom none t := by
  rw [linesFrom_cons part fun _ hc => absurd hc (by decide)]
  rfl

/-- A character before a line feed that is not the other half of its line end. -/
theorem linesFrom_cons_append (part : Option (List Char)) {c : Char} {rest : List Char}
    (hpair : ∀ r, c = '\r' → rest = '\n' :: r → False) (hlast : ¬ (c = '\r' ∧ rest = []))
    (t : List Char) :
    linesFrom part (c :: rest ++ '\n' :: t) =
      if isLineEnd c then (part.getD []).reverse :: linesFrom none (rest ++ '\n' :: t)
      else linesFrom (some (c :: part.getD [])) (rest ++ '\n' :: t) := by
  refine linesFrom_cons part fun r hc hrest => ?_
  rcases rest with _ | ⟨d, rest⟩
  · exact hlast ⟨hc, rfl⟩
  · exact hpair rest hc (by rw [(List.cons.inj hrest).1])

/-- A line feed ends a line, whatever follows. -/
theorem linesFrom_append_feed (part : Option (List Char)) (s t : List Char) :
    linesFrom part (s ++ '\n' :: t) = linesFrom part (s ++ ['\n']) ++ linesFrom none t := by
  fun_induction linesFrom part s with
  | case1 => simp [linesFrom_feed, linesFrom]
  | case2 part => simp [linesFrom_feed, linesFrom]
  | case3 part rest ih =>
    simp only [List.cons_append, linesFrom]
    rw [ih]
  | case4 part c rest hpair hc ih =>
    by_cases hlast : c = '\r' ∧ rest = []
    · obtain ⟨rfl, rfl⟩ := hlast
      simp [linesFrom]
    · rw [linesFrom_cons_append part hpair hlast, linesFrom_cons_append part hpair hlast, if_pos hc,
        if_pos hc, ih]
      rfl
  | case5 part c rest hpair hc ih =>
    have hlast : ¬ (c = '\r' ∧ rest = []) := fun h => hc (h.1 ▸ rfl)
    rw [linesFrom_cons_append part hpair hlast, linesFrom_cons_append part hpair hlast, if_neg hc,
      if_neg hc, ih]

theorem lines_ended (ls : List (List Char)) (t : List Char) :
    lines (ended ls ++ t) = lines (ended ls) ++ lines t := by
  rcases List.eq_nil_or_concat ls with rfl | ⟨ls, l, rfl⟩
  · rfl
  · rw [List.concat_eq_append, ended_concat, ← List.append_assoc, List.append_assoc]
    exact linesFrom_append_feed none (ended ls ++ l) t

/-- The last line stands after the line feeds. -/
theorem getLastD_lines_ended (ls : List (List Char)) {t : List Char} (ht : t ≠ []) :
    (lines (ended ls ++ t)).getLastD [] = (lines t).getLastD [] := by
  have hne : lines t ≠ [] := linesFrom_ne_nil none t (.inr ht)
  rw [lines_ended, List.getLastD_eq_getLast?, List.getLastD_eq_getLast?, List.getLast?_append,
    List.getLast?_eq_some_getLast hne]
  rfl

/-- Characters that end no line belong to the line that has been begun. -/
theorem linesFrom_inline {l : List Char} (hl : ∀ c ∈ l, isLineEnd c = false)
    (part : Option (List Char)) (hpart : part.isSome = true ∨ l ≠ []) (t : List Char) :
    linesFrom part (l ++ t) = linesFrom (some (l.reverse ++ part.getD [])) t := by
  induction l generalizing part with
  | nil =>
    obtain ⟨begun, rfl⟩ := Option.isSome_iff_exists.1 (hpart.resolve_right (absurd rfl))
    rfl
  | cons c l ih =>
    have hc := hl c List.mem_cons_self
    have hne : c ≠ '\r' := by
      rintro rfl
      cases hc
    rw [List.cons_append, linesFrom_cons part fun _ he => absurd he hne, hc,
      if_neg Bool.false_ne_true, ih (fun d hd => hl d (List.mem_cons_of_mem _ hd)) _ (.inl rfl)]
    simp

/-- A line on which no other line ends. -/
theorem lines_of_inline {l : List Char} (hl : ∀ c ∈ l, isLineEnd c = false) (hne : l ≠ []) :
    lines l = [l] := by
  have h := linesFrom_inline hl none (.inr hne) []
  simpa [linesFrom, lines] using h

/-- If only line feeds end the lines of a text, nothing on one of them ends a line. -/
theorem inline_of_subset {s l : List Char} (hs : ∀ c ∈ s, isLineEnd c = true → c = '\n')
    (hsub : l ⊆ s) (hl : '\n' ∉ l) : ∀ c ∈ l, isLineEnd c = false := by
  intro c hc
  cases hend : isLineEnd c with
  | false => rfl
  | true => exact absurd (hs c (hsub hc) hend ▸ hc) hl

/-- What the checks at the end of a line look at: what stands on the line after any other ends of
lines. -/
def checkedLine (l : List Char) : List Char := (lines (l ++ ['\n'])).getLastD []

theorem checkedLine_of_inline {l : List Char} (hl : ∀ c ∈ l, isLineEnd c = false) :
    checkedLine l = l := by
  unfold checkedLine lines
  by_cases hne : l = []
  · subst hne
    rfl
  · rw [linesFrom_inline hl none (.inr hne), linesFrom_feed]
    simp [linesFrom]

end Text

namespace Place

variable {text l rest : List Char} {done : List (List Char)}

/-- The line that ends at a place inside a text. -/
theorem lastLine_of_take {here : Place} {n : Nat} (hpos : here.position = n) (hn : n ≠ 0)
    (hle : n ≤ here.text.length) :
    here.lastLine = (Text.lines (here.text.take n)).getLastD [] := by
  unfold lastLine Layout.lastLine
  have hzero : ¬ here.position = 0 := by omega
  simp only [if_neg hzero]
  rw [hpos, Span.place_ofNat hle, Text.lastLine?_eq, List.getLastD_eq_getLast?]
  cases (Text.lines (here.text.take n)).getLast? <;> rfl

/-- The line that ends with a line feed. -/
theorem lastLine_lineFeed (htext : text = ended done ++ (l ++ '\n' :: rest)) :
    ((onLine text done l).beyond .lineFeed).lastLine = Text.checkedLine l := by
  have hpos : ((onLine text done l).beyond .lineFeed).position =
      ((ended done ++ (l ++ ['\n'])).length : Nat) := by
    simp [onLine, beyond, Lexeme.lineFeed, Int.add_assoc]
  have htake : text.take (ended done ++ (l ++ ['\n'])).length = ended done ++ (l ++ ['\n']) := by
    rw [htext, ← List.prefix_iff_eq_take.1]
    exact ⟨rest, by simp⟩
  have hle : (ended done ++ (l ++ ['\n'])).length ≤ text.length := by
    rw [htext]
    simp
  rw [lastLine_of_take hpos (by simp) hle, show ((onLine text done l).beyond .lineFeed).text = text
    from rfl, htake, Text.getLastD_lines_ended done (by simp)]
  rfl

/-- The line that ends with the text, if there is anything on it. -/
theorem lastLine_end (htext : text = ended done ++ l) (hl : l ≠ []) :
    (onLine text done l).lastLine = (Text.lines l).getLastD [] := by
  have hpos : (onLine text done l).position = (text.length : Nat) := by
    simp [onLine, htext]
  have hzero : text.length ≠ 0 := by
    rw [htext, List.length_append]
    have := List.length_pos_iff.2 hl
    omega
  rw [lastLine_of_take hpos hzero (Nat.le_refl _), show (onLine text done l).text = text from rfl,
    List.take_length, htext, Text.getLastD_lines_ended done hl]

/-- The line that ends with a text that does not end with a line feed. -/
theorem lastLine_unended (htext : text = ended done ++ l) (hlast : text.getLast? ≠ some '\n')
    (hl : ∀ c ∈ l, Text.isLineEnd c = false) : (onLine text done l).lastLine = l := by
  by_cases hne : l = []
  · subst hne
    rcases List.eq_nil_or_concat done with rfl | ⟨done, l, rfl⟩
    · rfl
    · refine absurd ?_ hlast
      rw [htext, List.concat_eq_append, ended_concat]
      simp
  · rw [lastLine_end htext hne, Text.lines_of_inline hl hne]
    rfl

end Place

/-! ### What lexemes on a line do -/

namespace Lexeme

/-- White space and directives do not count as something on a line. -/
def isPassive (x : Lexeme) : Bool := x.kind == .blank || x.kind == .directive

/-- Whether a lexeme is a directive to skip the next line. -/
def isSkipLine (x : Lexeme) : Bool :=
  match x.role with
  | .directive command => command == Check.skipLine.key
  | _ => false

/-- What lexemes add to the indentation. -/
def shiftOf : List Lexeme → Int
  | [] => 0
  | x :: xs => x.shift + shiftOf xs

end Lexeme

namespace Text

/-- A line with nothing on it but white space and directives. -/
def isBlankLine (l : List Char) : Bool := (scan l).1.all Lexeme.isPassive

/-- What a line adds to the indentation. -/
def lineShift (l : List Char) : Int := Lexeme.shiftOf (scan l).1

/-- Whether there is a directive on a line to skip the next one. -/
def skipsNext (l : List Char) : Bool := (scan l).1.any Lexeme.isSkipLine

end Text

/-- What a directive to skip the file leaves counts as true if such directives are followed. -/
theorem isTrue_of_skipsFile {s : Settings} {v : Json} {b : Bool} (h : s.isActive .skipFile = .ok b)
    (hv : Check.skipsFile s = .ok v) : v.isTrue = b := by
  unfold Settings.isActive at h
  unfold Check.skipsFile at hv
  rw [hv] at h
  exact Except.ok.inj h

theorem skippedLine_ne {s : Settings} {line : Nat} {v : Option Int}
    (h : Check.skippedLine s line = .ok v) : v ≠ some (line : Int) := by
  have hgives : Gives (· ≠ some (line : Int)) (Check.skippedLine s line) := by
    refine Gives.bind fun b => ?_
    split
    · refine gives_ok fun hline => ?_
      have := Option.some.inj hline
      omega
    · exact gives_ok (by simp)
  exact hgives v h

namespace Ledger

variable {p : Profile} {l l' l'' : Ledger} {x : Lexeme} {line : Nat}

/-- The end of a line that is checked. -/
theorem checkLine_of_checked {here : Place} (h : l.isChecked here.line = true) :
    l.checkLine p here =
      (l.countLine.warn (lineComplaints p here l.countLine.emptyLines) here).indent p here.lastLine
        here := if_pos h

/-- The end of a line that is not checked. -/
theorem checkLine_of_unchecked {here : Place} (h : l.isChecked here.line = false) :
    l.checkLine p here = l := by
  rw [checkLine, h, if_neg Bool.false_ne_true]

theorem skips_indent (p : Profile) (line : List Char) (here : Place) (l : Ledger) :
    (l.indent p line here).skipFile = l.skipFile ∧
      (l.indent p line here).skipLine = l.skipLine := by
  unfold indent
  split <;> exact ⟨rfl, rfl⟩

/-- The end of a line does not change what is skipped. -/
theorem skips_checkLine (p : Profile) (here : Place) (l : Ledger) :
    (l.checkLine p here).skipFile = l.skipFile ∧ (l.checkLine p here).skipLine = l.skipLine := by
  unfold checkLine
  split
  · rw [(skips_indent _ _ _ _).1, (skips_indent _ _ _ _).2, countLine_eq]
    exact ⟨rfl, rfl⟩
  · exact ⟨rfl, rfl⟩

/-- The end of a line takes nothing back. -/
theorem suffix_checkLine (p : Profile) (here : Place) (l : Ledger) :
    l.warnings <:+ (l.checkLine p here).warnings := by
  unfold checkLine
  split
  · rw [countLine_eq]
    unfold indent
    split
    · exact ⟨_, List.append_assoc _ _ _⟩
    · exact ⟨_, rfl⟩
  · exact List.suffix_refl _

/-- A file that is skipped stays skipped. -/
def Lasts (p : Profile) (l : Ledger) : Prop :=
  l.skipFile.isTrue = true → ∀ v, Check.skipsFile p.settings = .ok v → v.isTrue = true

/-- What lexemes on a line do, warnings apart. Whether they count as something on the line depends
on whether the line is skipped. -/
structure Treads (p : Profile) (line : Nat) (xs : List Lexeme) (l l' : Ledger) : Prop where
  emptyLines : l'.emptyLines = l.emptyLines
  level : l'.level = l.level
  shift : l'.shift = l.shift + Lexeme.shiftOf xs
  skipFile : l'.skipFile = l.skipFile ∨ Check.skipsFile p.settings = .ok l'.skipFile
  skipLine : l'.skipLine = l.skipLine ∨
    xs.any Lexeme.isSkipLine = true ∧ Check.skippedLine p.settings line = .ok l'.skipLine
  counted : l.Lasts p → l.skipLine ≠ some (line : Int) → l'.skipFile.isTrue = false →
    l'.isEmptyLine = (l.isEmptyLine && xs.all Lexeme.isPassive)
  skipped : xs.any Lexeme.isSkipLine = false → l.skipLine = some (line : Int) →
    l'.isEmptyLine = l.isEmptyLine

namespace Treads

theorem nil (l : Ledger) : Treads p line [] l l :=
  ⟨rfl, rfl, (Int.add_zero _).symm, .inl rfl, .inl rfl, fun _ _ _ => (Bool.and_true _).symm,
    fun _ _ => rfl⟩

theorem lasts {xs : List Lexeme} (h : Treads p line xs l l') (hl : l.Lasts p) : l'.Lasts p := by
  intro htrue v hv
  rcases h.skipFile with hfile | hfile
  · exact hl (hfile ▸ htrue) v hv
  · rw [hv] at hfile
    cases hfile
    exact htrue

/-- A file that is not skipped was not skipped before. -/
theorem skipFile_before {xs : List Lexeme} (h : Treads p line xs l l') (hl : l.Lasts p)
    (hfalse : l'.skipFile.isTrue = false) : l.skipFile.isTrue = false := by
  cases htrue : l.skipFile.isTrue with
  | false => rfl
  | true =>
    rcases h.skipFile with hfile | hfile
    · rw [hfile, htrue] at hfalse
      cases hfalse
    · rw [hl htrue _ hfile] at hfalse
      cases hfalse

/-- A line that is not skipped when it starts is not skipped when it ends. -/
theorem skipLine_ne {xs : List Lexeme} (h : Treads p line xs l l')
    (hl : l.skipLine ≠ some (line : Int)) : l'.skipLine ≠ some (line : Int) := by
  rcases h.skipLine with hskip | ⟨-, hskip⟩
  · rw [hskip]
    exact hl
  · exact skippedLine_ne hskip

theorem cons {xs : List Lexeme} (h : Treads p line [x] l l') (h' : Treads p line xs l' l'') :
    Treads p line (x :: xs) l l'' where
  emptyLines := h'.emptyLines.trans h.emptyLines
  level := h'.level.trans h.level
  shift := by
    rw [h'.shift, h.shift]
    simp only [Lexeme.shiftOf]
    omega
  skipFile := by
    rcases h'.skipFile with hfile | hfile
    · rw [hfile]
      exact h.skipFile
    · exact .inr hfile
  skipLine := by
    rcases h'.skipLine with hskip | ⟨hany, hskip⟩
    · rw [hskip]
      refine h.skipLine.imp_right fun ⟨hany, hskip'⟩ => ⟨?_, hskip'⟩
      simp only [List.any_cons, List.any_nil, Bool.or_false] at hany ⊢
      rw [hany, Bool.true_or]
    · refine .inr ⟨?_, hskip⟩
      rw [List.any_cons, hany, Bool.or_true]
  counted hl hline hfalse := by
    rw [h'.counted (h.lasts hl) (h.skipLine_ne hline) hfalse,
      h.counted hl hline (h'.skipFile_before (h.lasts hl) hfalse)]
    simp [Bool.and_assoc]
  skipped hany hline := by
    rw [List.any_cons, Bool.or_eq_false_iff] at hany
    have hsame : l'.skipLine = l.skipLine := by
      rcases h.skipLine with hskip | ⟨hskip, -⟩
      · exact hskip
      · simp only [List.any_cons, List.any_nil, Bool.or_false, hany.1] at hskip
        cases hskip
    rw [h'.skipped hany.2 (hsame.trans hline)]
    exact h.skipped (by simp [hany.1]) hline

end Treads

/-- What a topic can change about what is skipped. -/
theorem heed_eq (p : Profile) (t : Topic) (line : Nat) (l : Ledger) :
    ∃ file skip, l.heed p t line = { l with skipFile := file, skipLine := skip } ∧
      (file = l.skipFile ∨ Check.skipsFile p.settings = .ok file) ∧
      (skip = l.skipLine ∨
        t.inspection? = some .skipLine ∧ Check.skippedLine p.settings line = .ok skip) := by
  unfold heed
  cases t.inspection? with
  | none => exact ⟨_, _, rfl, .inl rfl, .inl rfl⟩
  | some i =>
    cases i with
    | skipLine =>
      cases hskip : Check.skippedLine p.settings line with
      | ok next => exact ⟨_, _, rfl, .inl rfl, .inr ⟨rfl, rfl⟩⟩
      | error f => exact ⟨_, _, rfl, .inl rfl, .inl rfl⟩
    | skipFile =>
      cases hskip : Check.skipsFile p.settings with
      | ok v => exact ⟨_, _, rfl, .inr rfl, .inl rfl⟩
      | error f => exact ⟨_, _, rfl, .inl rfl, .inl rfl⟩
    | _ => exact ⟨_, _, rfl, .inl rfl, .inl rfl⟩

theorem eq_skipLine_of_inspection {command : String}
    (h : (Topic.directive command).inspection? = some .skipLine) :
    command = Check.skipLine.key := by
  unfold Topic.inspection? at h
  by_cases hline : command = Check.skipLine.key
  · exact hline
  · simp only [if_neg hline] at h
    split at h
    · cases h
    · obtain ⟨k, -, hk⟩ := Option.bind_eq_some_iff.1 h
      cases k <;> cases hk

/-- Only directives are about what is to be skipped. -/
theorem heed_kind (p : Profile) (k : Kind) (line : Nat) (l : Ledger) :
    l.heed p (.kind k) line = l := by
  unfold heed Topic.inspection?
  cases k <;> rfl

/-- **A lexeme on a line.** -/
theorem treads_next (hcut : x.IsCut) (hx : x.kind ≠ .newLine) {here : Place}
    (hhere : here.line = line) (o : Outline) : Treads p line [x] l (l.next p x here o) := by
  subst hhere
  unfold next
  split
  · rename_i hblank
    refine ⟨rfl, rfl, ?_, .inl rfl, .inl rfl, fun _ _ _ => ?_, fun _ _ => rfl⟩
    · simp [Lexeme.shiftOf, hcut.shift_of_blank hblank]
    · simp [Lexeme.isPassive, hblank]
  · rename_i hblank
    unfold takeIn
    cases hrole : x.role with
    | lineEnd => exact absurd (x.kind_of_lineEnd hrole) hx
    | directive command =>
      obtain ⟨file, skip, hheed, hfile, hskip⟩ := heed_eq p (.directive command)
        (here.beyond x).line { l with shift := l.shift + x.shift }
      simp only [inspect, hheed, warn]
      have hpassive : x.isPassive = true := by simp [Lexeme.isPassive, x.kind_of_directive hrole]
      refine ⟨rfl, rfl, ?_, hfile, ?_, fun _ _ _ => ?_, fun _ _ => rfl⟩
      · simp [Lexeme.shiftOf]
      · rcases hskip with hskip | ⟨hinspection, hskip⟩
        · exact .inl hskip
        · refine .inr ⟨?_, hskip⟩
          simp [Lexeme.isSkipLine, hrole, eq_skipLine_of_inspection hinspection]
      · simp [hpassive]
    | word =>
      -- a word makes the line count, but only where it is checked
      have hpassive : x.isPassive = false := by
        have hdirective : x.kind ≠ .directive := fun h => by
          obtain ⟨command, hcommand⟩ := hcut.role_of_directive h
          rw [hrole] at hcommand
          cases hcommand
        simp [Lexeme.isPassive, hblank, hdirective]
      simp only [meet, inspect, heed_kind]
      split
      · rename_i hchecked
        refine ⟨rfl, rfl, ?_, .inl rfl, .inl rfl, fun _ _ _ => ?_, fun _ hskip => ?_⟩
        · simp [warn, Lexeme.shiftOf]
        · simp [warn, hpassive]
        · exact absurd hskip (isChecked_iff.1 hchecked).1
      · rename_i hchecked
        refine ⟨rfl, rfl, ?_, .inl rfl, .inl rfl, fun _ hskip hfile => ?_, fun _ _ => rfl⟩
        · simp [warn, Lexeme.shiftOf]
        · exact absurd (isChecked_iff.2 ⟨hskip, hfile⟩) hchecked

/-- **A line feed** ends its line. -/
theorem next_lineFeed (p : Profile) (here : Place) (o : Outline) (l : Ledger) :
    l.next p .lineFeed here o =
      (l.checkLine p (here.beyond .lineFeed)).warn (o.missingComma p.settings)
        (here.beyond .lineFeed) := by
  unfold next
  rw [if_neg (by decide), Reading.droppedComma_of_lineEnd (by rfl), warn_nil]
  simp [takeIn, Lexeme.lineFeed, Lexeme.role]

end Ledger

namespace Reading

variable {p : Profile} {text l : List Char} {done : List (List Char)} {r r' s s₁ : Reading}

theorem treads_readLexemes {line : Nat} {xs : List Lexeme} (hcut : ∀ x ∈ xs, x.IsCut)
    (hxs : ∀ x ∈ xs, x.kind ≠ .newLine) (hr : r.place.line = line)
    (h : xs.forM (readLexeme p) r = .ok () r') : Ledger.Treads p line xs r.ledger r'.ledger := by
  induction xs generalizing r with
  | nil =>
    cases h
    exact .nil _
  | cons x xs ih =>
    obtain ⟨⟨⟩, r₁, hone, hrest⟩ := bind_ok h
    have hstep := Ledger.treads_next (p := p) (l := r.ledger) (hcut x List.mem_cons_self)
      (hxs x List.mem_cons_self) hr r.outline
    rw [← ledger_readLexeme hone] at hstep
    refine hstep.cons (ih (fun y hy => hcut y (List.mem_cons_of_mem _ hy))
      (fun y hy => hxs y (List.mem_cons_of_mem _ hy)) ?_ hrest)
    rw [place_readLexeme hone, Place.past, if_neg (hxs x List.mem_cons_self)]
    exact hr

/-- **The lexemes of a line.** -/
theorem ReadsLine.treads (h : ReadsLine p text done l s s₁) :
    Ledger.Treads p (1 + done.length) (scan l).1 s.ledger s₁.ledger :=
  treads_readLexemes (fun _ hx => Lexeme.isCut_of_mem hx)
    (fun _ hx => Lexeme.kind_of_mem_line h.inline hx) (congrArg Place.line h.start) h.lexemes

end Reading

end BrightLint
