import BrightLint.Lexeme.Scan

/-!
Lexemes and the ends of lines. A line feed is a lexeme of its own, and no other lexeme goes on after
one. So what stands before a line feed is cut into the same lexemes whether the line feed is there
or not, and a text that is cut up to its end can be followed by a line feed and another text.

* `Lexeme.first?_line`: the first lexeme of a line does not depend on what follows the line
* `Lexeme.first?_isPrefix`: a lexeme is a piece of the text
* `scan_line`: the lexemes of two texts with a line feed between them
-/

namespace BrightLint

/-! ### Characters up to a line feed, or another one that stops -/

section Line

variable {s r u : List Char} {p : Char → Bool}

theorem takeWhile_stop (hu : ∀ c ∈ u.head?, p c = false) :
    (s ++ u).takeWhile p = s.takeWhile p := by
  induction s with
  | nil =>
    cases u with
    | nil => rfl
    | cons c u => simp [hu c rfl]
  | cons c s ih => simp [List.takeWhile_cons, ih]

theorem dropWhile_stop (hu : ∀ c ∈ u.head?, p c = false) :
    (s ++ u).dropWhile p = s.dropWhile p ++ u := by
  induction s with
  | nil =>
    cases u with
    | nil => rfl
    | cons c u => simp [hu c rfl]
  | cons c s ih =>
    rw [List.cons_append, List.dropWhile_cons, List.dropWhile_cons]
    split
    · exact ih
    · rfl

theorem takeWhile_line (hp : p '\n' = false) : (s ++ '\n' :: r).takeWhile p = s.takeWhile p :=
  takeWhile_stop (by simpa using hp)

theorem dropWhile_line (hp : p '\n' = false) :
    (s ++ '\n' :: r).dropWhile p = s.dropWhile p ++ '\n' :: r :=
  dropWhile_stop (by simpa using hp)

theorem firstLine_line : Text.firstLine (s ++ '\n' :: r) = Text.firstLine s :=
  takeWhile_line (by decide)

theorem Text.firstLine_inline (h : '\n' ∉ s) : Text.firstLine s = s := by
  have hall : ∀ c ∈ s, (c != '\n') = true := fun c hc => bne_iff_ne.2 fun hfeed => h (hfeed ▸ hc)
  have htake : (s ++ []).takeWhile (· != '\n') = s ++ [] := List.takeWhile_append_of_pos hall
  rwa [List.append_nil] at htake

theorem startsOutsideWord_line :
    Text.startsOutsideWord (s ++ '\n' :: r) = Text.startsOutsideWord s := by
  cases s with
  | nil =>
    have hline : Text.isWordChar '\n' = false := by decide +kernel
    simp [Text.startsOutsideWord, hline]
  | cons c s => rfl

/-- A word without a line feed in it, in any case. -/
def IsInline (w : List Char) : Prop := ∀ c ∈ w, Text.fold '\n' ≠ Text.fold c

theorem isInline_of_all {w : List Char}
    (h : (w.all fun c => Text.fold '\n' != Text.fold c) = true) : IsInline w := by
  simpa [IsInline] using h

/-- What follows a word in any case. -/
theorem afterFolded?_eq_some_iff {w : List Char} :
    afterFolded? w s = some r ↔ ∃ u, s = u ++ r ∧ u.map Text.fold = w.map Text.fold := by
  induction w generalizing s with
  | nil =>
    constructor
    · rintro ⟨⟩
      exact ⟨[], rfl, rfl⟩
    · rintro ⟨u, rfl, hu⟩
      rw [List.map_eq_nil_iff.1 hu]
      rfl
  | cons a w ih =>
    cases s with
    | nil =>
      constructor
      · rintro ⟨⟩
      · rintro ⟨u, hs, hu⟩
        rw [(List.append_eq_nil_iff.1 hs.symm).1] at hu
        cases hu
    | cons c s =>
      rw [afterFolded?]
      constructor
      · intro h
        split at h
        · next hc =>
          obtain ⟨u, rfl, hu⟩ := ih.1 h
          exact ⟨c :: u, rfl, List.cons_eq_cons.2 ⟨beq_iff_eq.1 hc, hu⟩⟩
        · cases h
      · rintro ⟨u, hs, hu⟩
        obtain ⟨d, v, rfl, hd, hv⟩ := List.map_eq_cons_iff.1 hu
        obtain ⟨rfl, rfl⟩ := List.cons_eq_cons.1 hs
        rw [if_pos (beq_iff_eq.2 hd)]
        exact ih.2 ⟨v, rfl, hv⟩

theorem afterFolded?_stop {w : List Char} (hw : ∀ c ∈ u.head?, ∀ d ∈ w, Text.fold c ≠ Text.fold d) :
    afterFolded? w (s ++ u) = (afterFolded? w s).map (· ++ u) := by
  induction w generalizing s with
  | nil => rfl
  | cons a w ih =>
    cases s with
    | nil =>
      cases u with
      | nil => rfl
      | cons c u => simp [afterFolded?, hw c rfl a List.mem_cons_self]
    | cons c s =>
      rw [List.cons_append, afterFolded?, afterFolded?]
      split
      · exact ih fun c hc d hd => hw c hc d (List.mem_cons_of_mem _ hd)
      · rfl

theorem afterFolded?_line {w : List Char} (hw : IsInline w) :
    afterFolded? w (s ++ '\n' :: r) = (afterFolded? w s).map (· ++ '\n' :: r) :=
  afterFolded?_stop (by simpa [IsInline] using hw)

theorem isPrefixOf_stop {w : List Char} (hw : ∀ c ∈ u.head?, c ∉ w) :
    w.isPrefixOf (s ++ u) = w.isPrefixOf s := by
  induction w generalizing s with
  | nil => rfl
  | cons a w ih =>
    cases s with
    | nil =>
      cases u with
      | nil => rfl
      | cons c u =>
        have hne : a ≠ c := fun h => hw c rfl (h ▸ List.mem_cons_self)
        simp [List.isPrefixOf, hne]
    | cons c s =>
      simp [List.isPrefixOf, ih fun c hc hmem => hw c hc (List.mem_cons_of_mem _ hmem)]

theorem isPrefixOf_line {w : List Char} (hw : IsInline w) :
    w.isPrefixOf (s ++ '\n' :: r) = w.isPrefixOf s := by
  refine isPrefixOf_stop fun c hc hmem => ?_
  cases hc
  exact hw '\n' hmem rfl

end Line

/-! ### The shapes of lexemes -/

section Shapes

variable {s : List Char} (r : List Char)

theorem remark_isInline : IsInline ['r', 'e', 'm'] := isInline_of_all (by decide +kernel)

theorem afterMark?_of_ne {s : List Char} (h : s.head? ≠ some '\'') :
    afterMark? s = afterFolded? ['r', 'e', 'm'] s := by
  unfold afterMark?
  split
  · exact absurd rfl h
  · rfl

theorem startsRemark_of_ne {s : List Char} (h : s.head? ≠ some '\'') :
    startsRemark s = (afterFolded? ['r', 'e', 'm'] s).any Text.startsOutsideWord := by
  unfold startsRemark
  split
  · exact absurd rfl h
  · cases afterFolded? ['r', 'e', 'm'] s <;> rfl

theorem afterMark?_line :
    afterMark? (s ++ '\n' :: r) = (afterMark? s).map (· ++ '\n' :: r) := by
  by_cases hs : s.head? = some '\''
  · obtain ⟨s, rfl⟩ : ∃ t, s = '\'' :: t := List.head?_eq_some_iff.1 hs
    rfl
  · have hline : (s ++ '\n' :: r).head? ≠ some '\'' := by
      cases s with
      | nil => simp
      | cons c s => exact hs
    rw [afterMark?_of_ne hs, afterMark?_of_ne hline, afterFolded?_line remark_isInline]

theorem startsRemark_line (hs : s ≠ []) : startsRemark (s ++ '\n' :: r) = startsRemark s := by
  obtain ⟨c, s, rfl⟩ := List.exists_cons_of_ne_nil hs
  by_cases hc : c = '\''
  · subst hc
    rfl
  · rw [startsRemark_of_ne (by simpa using hc), startsRemark_of_ne (by simpa using hc),
      afterFolded?_line remark_isInline, Option.any_map]
    congr 1
    funext t
    exact startsOutsideWord_line

theorem directiveParam?_line :
    directiveParam? (s ++ '\n' :: r) = directiveParam? s := by
  rcases s with _ | ⟨c, s⟩
  · rfl
  · by_cases hc : c = ':'
    · subst hc
      simp only [directiveParam?, List.cons_append]
      rw [takeWhile_line (by decide)]
    · simp [directiveParam?, hc]

theorem readDirective?_line : readDirective? (s ++ '\n' :: r) = readDirective? s := by
  have hname : IsInline "BSLINT_".toList := isInline_of_all (by decide +kernel)
  unfold readDirective?
  rw [afterMark?_line]
  cases afterMark? s with
  | none => rfl
  | some t =>
    simp only [Option.map_some, Option.bind_eq_bind, Option.bind_some]
    rw [dropWhile_line (by decide), afterFolded?_line hname]
    cases afterFolded? "BSLINT_".toList (t.dropWhile (· == ' ')) with
    | none => rfl
    | some body =>
      simp only [Option.map_some, Option.bind_some]
      rw [takeWhile_line (by decide +kernel), dropWhile_line (by decide +kernel),
        directiveParam?_line]

theorem readIdent?_line (hs : s ≠ []) : readIdent? (s ++ '\n' :: r) = readIdent? s := by
  obtain ⟨c, s, rfl⟩ := List.exists_cons_of_ne_nil hs
  have htake := takeWhile_line (s := c :: s) (r := r) (p := isNameChar) (by decide +kernel)
  have hdrop := dropWhile_line (s := c :: s) (r := r) (p := isNameChar) (by decide +kernel)
  -- the sign of a type is the next character, which is no line feed
  have hsign : ∀ t : List Char, ((t ++ '\n' :: r).take 1).filter isTypeSign =
      (t.take 1).filter isTypeSign := by
    intro t
    cases t with
    | nil => simp [show isTypeSign '\n' = false by decide]
    | cons d t => rfl
  rw [List.cons_append] at htake hdrop ⊢
  simp only [readIdent?, htake, hdrop, hsign]

theorem readQuoted?_line (hs : s ≠ []) : readQuoted? (s ++ '\n' :: r) = readQuoted? s := by
  obtain ⟨c, s, rfl⟩ := List.exists_cons_of_ne_nil hs
  by_cases hc : c = '"'
  · subst hc
    simp only [readQuoted?, List.cons_append]
    rw [takeWhile_line (by decide), dropWhile_line (by decide)]
    cases s.dropWhile fun c => c != '"' && c != '\n' with
    | nil => rfl
    | cons d t =>
      by_cases hd : d = '"'
      · subst hd
        rfl
      · simp [hd]
  · simp [readQuoted?, hc]

theorem readNumber_line : readNumber (s ++ '\n' :: r) = readNumber s := by
  unfold readNumber
  simp only
  rw [takeWhile_line (by decide +kernel), dropWhile_line (by decide +kernel)]
  have hline : Text.isDigit '\n' = false := by decide +kernel
  rcases s.dropWhile Text.isDigit with _ | ⟨c, _ | ⟨d, t⟩⟩
  · rfl
  · by_cases hc : c = '.'
    · subst hc
      simp [hline]
    · simp [hc]
  · by_cases hc : c = '.'
    · subst hc
      simp only [List.cons_append]
      rw [← List.cons_append, takeWhile_line hline]
    · simp [hc]

end Shapes

/-- Whether a shape has no line feed in the middle of it. -/
def Shape.isInline : Shape → Bool
  | .sign t | .word t => t.toList.all fun c => Text.fold '\n' != Text.fold c
  | _ => true

theorem Shape.isInline_text {t : String} (h : (Shape.sign t).isInline = true) :
    IsInline t.toList := isInline_of_all h

/-- **What a shape reads at the head of a line** does not depend on what follows the line. -/
theorem Shape.read?_line {sh : Shape} {s : List Char} (r : List Char) (hsh : sh.isInline = true)
    (hs : s ≠ []) : sh.read? (s ++ '\n' :: r) = sh.read? s := by
  cases sh with
  | lineFeed =>
    obtain ⟨c, s, rfl⟩ := List.exists_cons_of_ne_nil hs
    rfl
  | blank =>
    obtain ⟨c, s, rfl⟩ := List.exists_cons_of_ne_nil hs
    rfl
  | sign t => simp only [read?, isPrefixOf_line (isInline_text hsh)]
  | word t =>
    simp only [read?, afterFolded?_line (isInline_text (t := t) hsh)]
    cases hafter : afterFolded? t.toList s with
    | none => rfl
    | some rest =>
      have hlen := afterFolded?_length hafter
      simp only [Option.map_some, startsOutsideWord_line]
      rw [List.take_append_of_le_length (by omega)]
  | directive => simp only [read?, readDirective?_line, firstLine_line]
  | remark => simp only [read?, startsRemark_line r hs, firstLine_line]
  | ident => exact readIdent?_line r hs
  | quoted => exact readQuoted?_line r hs
  | number => simp only [read?, readNumber_line]

/-! ### Lexemes are pieces of the text -/

section Pieces

variable {s t : List Char} {q : Parts}

theorem takeWhile_append_isPrefix {p : Char → Bool} (h : t <+: s.dropWhile p) :
    s.takeWhile p ++ t <+: s := by
  have hpre := (List.prefix_append_right_inj (s.takeWhile p)).2 h
  rwa [List.takeWhile_append_dropWhile] at hpre

theorem readIdent?_isPrefix (h : readIdent? s = some (t, q)) : t <+: s := by
  have hsign : ∀ u : List Char, (u.take 1).filter isTypeSign <+: u := by
    rintro (_ | ⟨c, u⟩)
    · exact List.prefix_rfl
    · by_cases hc : isTypeSign c = true <;> simp [hc]
  unfold readIdent? at h
  split at h
  · split at h <;> cases h
    exact takeWhile_append_isPrefix (hsign _)
  · cases h

theorem readQuoted?_isPrefix (h : readQuoted? s = some (t, q)) : t <+: s := by
  unfold readQuoted? at h
  split at h
  · simp only at h
    split at h <;> cases h
    next u hu =>
      rw [List.cons_append]
      refine (List.prefix_cons_inj '"').2 (takeWhile_append_isPrefix ?_)
      rw [hu]
      exact ⟨u, rfl⟩
  · cases h

theorem readNumber_isPrefix (s : List Char) : readNumber s <+: s := by
  unfold readNumber
  simp only
  split
  · next d u hu =>
    split
    · refine takeWhile_append_isPrefix ?_
      rw [hu]
      exact (List.prefix_cons_inj '.').2 (List.takeWhile_prefix _)
    · exact List.takeWhile_prefix _
  · exact List.takeWhile_prefix _

/-- What a shape reads is where the text starts. -/
theorem Shape.read?_isPrefix {sh : Shape} (h : sh.read? s = some (t, q)) : t <+: s := by
  unfold Shape.read? at h
  split at h
  · split at h <;> cases h
    next hs =>
      obtain ⟨u, rfl⟩ := List.head?_eq_some_iff.1 hs
      exact ⟨u, rfl⟩
  · split at h
    · split at h <;> cases h
      exact ⟨_, rfl⟩
    · cases h
  · split at h <;> cases h
    next hs => exact List.isPrefixOf_iff_prefix.1 hs
  · split at h
    · split at h <;> cases h
      exact List.take_prefix _ _
    · cases h
  · obtain ⟨_, -, he⟩ := Option.map_eq_some_iff.1 h
    cases he
    exact List.takeWhile_prefix _
  · split at h <;> cases h
    exact List.takeWhile_prefix _
  · exact readIdent?_isPrefix h
  · exact readQuoted?_isPrefix h
  · simp only at h
    split at h <;> cases h
    exact readNumber_isPrefix s

end Pieces

/-! ### Cutting a text -/

theorem lexemeRules_isInline : ∀ r ∈ lexemeRules, r.shape.isInline = true := by decide +kernel

namespace Lexeme

/-- The end of a line. -/
def lineFeed : Lexeme := ⟨['\n'], .plain, .newLine, .newLine, 0⟩

/-- Rules that read the same pieces in two texts find the same lexeme. -/
theorem findSome?_read? {s s' : List Char} {rules : List Rule}
    (h : ∀ rule ∈ rules, rule.shape.read? s = rule.shape.read? s') :
    rules.findSome? (·.read? s) = rules.findSome? (·.read? s') := by
  induction rules with
  | nil => rfl
  | cons rule rules ih =>
    have hread : rule.read? s = rule.read? s' := by
      rw [Rule.read?, Rule.read?, h rule List.mem_cons_self]
    rw [List.findSome?_cons, List.findSome?_cons, hread,
      ih fun rule' hmem => h rule' (List.mem_cons_of_mem _ hmem)]

/-- **The first lexeme of a line** does not depend on what follows the line. -/
theorem first?_line {s : List Char} (r : List Char) (hs : s ≠ []) :
    first? (s ++ '\n' :: r) = first? s :=
  findSome?_read? fun rule hrule => Shape.read?_line r (lexemeRules_isInline rule hrule) hs

/-- The line feed is the first lexeme of what starts with one. -/
theorem first?_lineFeed (r : List Char) : first? ('\n' :: r) = some lineFeed := rfl

theorem first?_isPrefix {s : List Char} {x : Lexeme} (h : first? s = some x) : x.text <+: s := by
  obtain ⟨rule, -, hx⟩ := List.exists_of_findSome?_eq_some h
  obtain ⟨⟨t, q⟩, ht, rfl⟩ := Option.map_eq_some_iff.1 hx
  exact Shape.read?_isPrefix ht

end Lexeme

theorem scan_nil : scan [] = ([], []) := by rw [scan]

theorem scan_of_some {s : List Char} {x : Lexeme} (h : Lexeme.first? s = some x) :
    scan s = (x :: (scan (s.drop x.text.length)).1, (scan (s.drop x.text.length)).2) := by
  cases s with
  | nil => cases h
  | cons c t =>
    rw [scan]
    split
    · next hnone => rw [h] at hnone; cases hnone
    · next y hy =>
      rw [h] at hy
      cases hy
      rfl

theorem scan_of_none {s : List Char} (h : Lexeme.first? s = none) : scan s = ([], s) := by
  cases s with
  | nil => rw [scan]
  | cons c t =>
    rw [scan]
    split
    · rfl
    · next y hy => rw [h] at hy; cases hy

/-- **Two texts with a line feed between them**: the lexemes of the first, the line feed, and those
of the second. If the first is not cut up to its end, cutting stops there. -/
theorem scan_line (s r : List Char) :
    scan (s ++ '\n' :: r) =
      if (scan s).2 = [] then ((scan s).1 ++ .lineFeed :: (scan r).1, (scan r).2)
      else ((scan s).1, (scan s).2 ++ '\n' :: r) := by
  by_cases hs : s = []
  · subst hs
    rw [scan_nil, List.nil_append, scan_of_some (Lexeme.first?_lineFeed r)]
    rfl
  · have hline := Lexeme.first?_line r hs
    cases hx : Lexeme.first? s with
    | none =>
      rw [hx] at hline
      rw [scan_of_none hx, scan_of_none hline, if_neg hs]
    | some x =>
      rw [hx] at hline
      have hpre := Lexeme.first?_isPrefix hx
      have hpos := List.length_pos_iff.2 (Lexeme.first?_ne_nil hx)
      have hdrop : (s ++ '\n' :: r).drop x.text.length = s.drop x.text.length ++ '\n' :: r :=
        List.drop_append_of_le_length hpre.length_le
      have hlt : (s.drop x.text.length).length < s.length := by
        have := hpre.length_le
        rw [List.length_drop]
        omega
      rw [scan_of_some hx, scan_of_some hline, hdrop, scan_line (s.drop x.text.length) r]
      split <;> rfl
termination_by s.length

end BrightLint
