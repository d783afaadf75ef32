import BrightLint.Proofs.Traversal

/-!
Where lexemes have to end. A colon and the mark of a comment take part in no lexeme that starts
before them, unless it is a string or a comment; neither does anything at the end of a text. So what
stands before is cut into the same lexemes, whatever follows.

* `Breaks`: a text that no lexeme before it goes on into
* `SameBreak`: texts that put an end to names and words alike
* `Lexeme.first?_break`, `scan_break`: lexemes before one break are lexemes before another
* `breaks_nil`, `breaks_colon`, `breaks_mark`: the ends of texts, colons and marks of comments
-/

namespace BrightLint

/-! ### Letters -/

namespace Text

theorem toNat_ofNat (n : Nat) : (Char.ofNat n).toNat = n ∨ (Char.ofNat n).toNat = 0 := by
  by_cases h : n.isValidChar
  · exact .inl (congrArg Char.toNat (dif_pos h))
  · exact .inr (congrArg Char.toNat (dif_neg h))

/-- What the tables of lower case and of twins lead to is outside ASCII, but for a few letters. -/
theorem foldTables_ascii :
    (∀ run ∈ lowerRuns,
      0x80 ≤ run.2.2.2 ∨ run.1 = run.2.1 ∧ (run.2.2.2 = 0x69 ∨ run.2.2.2 = 0x6b)) ∧
    ∀ pair ∈ twins, 0x80 ≤ pair.2 ∨ pair.2 = 0x69 ∨ pair.2 = 0x73 := by
  decide +kernel

theorem lowerCode_ascii {n : Nat} (h : 0x80 ≤ n) :
    0x80 ≤ lowerCode n ∨ lowerCode n = 0x69 ∨ lowerCode n = 0x6b := by
  unfold lowerCode
  split
  · next first last step low hfind =>
    have hrun := List.find?_some hfind
    simp only [Bool.and_eq_true, decide_eq_true_eq] at hrun
    rcases foldTables_ascii.1 _ (List.mem_of_find?_eq_some hfind) with hlow | ⟨hlast, hlow⟩
    · exact .inl (by simp only at hlow; omega)
    · simp only at hlast hlow
      omega
  · exact .inl h

/-- Few characters outside ASCII fold to one inside, and `r`, `e` and `m` are not among those. -/
theorem fold_ascii {c : Char} (h : 0x80 ≤ c.toNat) :
    0x80 ≤ (fold c).toNat ∨ (fold c).toNat ∈ [0, 0x69, 0x6b, 0x73] := by
  have hlower : 0x80 ≤ (lower c).toNat ∨ (lower c).toNat ∈ [0, 0x69, 0x6b] := by
    rw [lower, if_neg (Nat.not_lt.2 h)]
    rcases toNat_ofNat (lowerCode c.toNat) with he | he
    · rw [he]
      simpa using (lowerCode_ascii h).imp_right .inr
    · simp [he]
  rw [fold, if_neg (Nat.not_lt.2 h)]
  simp only
  rcases toNat_ofNat ((twins.lookup (lower c).toNat).getD (lower c).toNat) with he | he
  · rw [he]
    cases htwin : twins.lookup (lower c).toNat with
    | none =>
      rw [Option.getD_none]
      simp only [List.mem_cons, List.not_mem_nil, or_false] at hlower ⊢
      omega
    | some n =>
      obtain ⟨_, _, hmem, -⟩ := List.lookup_eq_some_iff.1 htwin
      have := foldTables_ascii.2 ((lower c).toNat, n) (by rw [hmem]; simp)
      simp only [Option.getD_some, List.mem_cons, List.not_mem_nil, or_false] at this ⊢
      omega
  · simp [he]

theorem toLower_remark : ((List.range 0x80).all fun n => ['r', 'e', 'm'].all fun d =>
    (Char.ofNat n).toLower != d || (Char.ofNat n == d || Char.ofNat n == d.toUpper)) = true := by
  decide +kernel

theorem fold_remark : (['r', 'e', 'm'].all fun d =>
    fold d == d && (decide ((fold d).toNat < 0x80) &&
      !([0, 0x69, 0x6b, 0x73].contains (fold d).toNat))) = true :=
  rfl

/-- The letters of the mark of a comment have two forms each. -/
theorem eq_of_fold {c d : Char} (hd : d ∈ ['r', 'e', 'm']) (h : fold c = fold d) :
    c = d ∨ c = d.toUpper := by
  have hself := List.all_eq_true.1 fold_remark d hd
  simp only [Bool.and_eq_true, beq_iff_eq, decide_eq_true_eq, Bool.not_eq_true',
    List.contains_eq_mem, decide_eq_false_iff_not] at hself
  obtain ⟨hfold, hsmall, hother⟩ := hself
  have hascii : c.toNat < 0x80 := by
    refine Nat.lt_of_not_le fun hle => ?_
    rcases fold_ascii hle with hbig | hmem
    · rw [h] at hbig
      omega
    · exact hother (h ▸ hmem)
  rw [fold_of_ascii hascii, hfold] at h
  have hforms := List.all_eq_true.1 toLower_remark c.toNat (List.mem_range.2 hascii)
  have hform := List.all_eq_true.1 hforms d hd
  simpa [h] using hform

end Text

/-! ### Breaks -/

/-- Whether a text starts with a word, in any case, that ends there. -/
def startsWithWord (w s : List Char) : Bool := (afterFolded? w s).any Text.startsOutsideWord

/-- A word of which no end is found at the head of a text. -/
def IsCutBy (u : List Char) : List Char → Prop
  | [] => True
  | c :: w => startsWithWord (c :: w) u = false ∧ IsCutBy u w

/-- A shape of white space, signs or words that does not go on into a text. -/
def Shape.EndsBefore (u : List Char) : Shape → Prop
  | .lineFeed | .blank => True
  | .sign t => ∀ c ∈ u.head?, c ∉ t.toList.tail
  | .word t => IsCutBy u t.toList
  | _ => False

/-- The rules for white space, signs and words. -/
def closedRules : List Rule :=
  [⟨.lineFeed, .newLine, .newLine, 0⟩, ⟨.blank, .blank, .blank, 0⟩] ++ signRules ++ phraseRules
    ++ structureRules ++ vocabularyRules

theorem lexemeRules_eq : lexemeRules = closedRules ++ openRules := rfl

/-- Whether neither a number nor the sign of a type nor what makes a directive goes on over a
character. -/
def isBreak (c : Char) : Bool :=
  !Text.isDigit c && c != '.' && !isTypeSign c && c != ' ' &&
    "emBSLINT_".toList.all fun d => Text.fold c != Text.fold d

theorem letters_eq : "emBSLINT_".toList = ['e', 'm'] ++ "BSLINT_".toList := rfl

/-- A text that no lexeme before it goes on into, except for names, strings and comments. -/
structure Breaks (u : List Char) : Prop where
  closed : ∀ rule ∈ closedRules, rule.shape.EndsBefore u
  head : ∀ c ∈ u.head?, isBreak c = true

/-- Texts that put an end to names and words alike. -/
structure SameBreak (u u' : List Char) : Prop where
  outside : Text.startsOutsideWord u = Text.startsOutsideWord u'
  nameStart : u.head?.any isNameStart = u'.head?.any isNameStart
  nameChar : u.head?.any isNameChar = u'.head?.any isNameChar

section Breaks

variable {s t u u' : List Char}

theorem Breaks.of_head (hu : Breaks u) {c : Char} (hc : c ∈ u.head?) :
    Text.isDigit c = false ∧ c ≠ '.' ∧ isTypeSign c = false ∧ c ≠ ' ' ∧
      ∀ d ∈ "emBSLINT_".toList, Text.fold c ≠ Text.fold d := by
  have hbreak := hu.head c hc
  simp only [isBreak, Bool.and_eq_true, Bool.not_eq_true', bne_iff_ne, List.all_eq_true] at hbreak
  obtain ⟨⟨⟨⟨hdigit, hpoint⟩, hsign⟩, hblank⟩, hfold⟩ := hbreak
  exact ⟨hdigit, hpoint, hsign, hblank, hfold⟩

theorem SameBreak.outside_append (h : SameBreak u u') (t : List Char) :
    Text.startsOutsideWord (t ++ u) = Text.startsOutsideWord (t ++ u') := by
  cases t with
  | nil => exact h.outside
  | cons c t => rfl

/-! ### Signs and words -/

theorem Shape.read?_word (w : String) (s : List Char) :
    (Shape.word w).read? s =
      if startsWithWord w.toList s then some (s.take w.toList.length, .plain) else none := by
  unfold read? startsWithWord
  simp only
  cases afterFolded? w.toList s <;> rfl

theorem startsWithWord_break {w : List Char} (hu : IsCutBy u w) (hu' : IsCutBy u' w)
    (h : SameBreak u u') :
    startsWithWord w (s ++ u) = startsWithWord w (s ++ u') := by
  induction w generalizing s with
  | nil => exact h.outside_append s
  | cons a w ih =>
    cases s with
    | nil => exact hu.1.trans hu'.1.symm
    | cons c s =>
      unfold startsWithWord
      rw [List.cons_append, List.cons_append, afterFolded?, afterFolded?]
      split
      · exact ih hu.2 hu'.2
      · rfl

theorem length_le_of_startsWithWord {w : List Char} (hu : IsCutBy u w)
    (hw : startsWithWord w (s ++ u) = true) : w.length ≤ s.length := by
  induction w generalizing s with
  | nil => exact Nat.zero_le _
  | cons a w ih =>
    cases s with
    | nil => exact absurd (hu.1.symm.trans hw) Bool.false_ne_true
    | cons c s =>
      unfold startsWithWord at hw
      rw [List.cons_append, afterFolded?] at hw
      split at hw
      · exact Nat.succ_le_succ (ih hu.2 hw)
      · cases hw

/-- White space, signs and words are the same before one break as before another. -/
theorem Shape.read?_break {sh : Shape} (hu : sh.EndsBefore u) (hu' : sh.EndsBefore u')
    (h : SameBreak u u') (hs : s ≠ []) : sh.read? (s ++ u) = sh.read? (s ++ u') := by
  obtain ⟨c, s, rfl⟩ := List.exists_cons_of_ne_nil hs
  cases sh with
  | lineFeed => rfl
  | blank => rfl
  | sign w =>
    have hu : ∀ c ∈ u.head?, c ∉ w.toList.tail := hu
    have hu' : ∀ c ∈ u'.head?, c ∉ w.toList.tail := hu'
    have hsame : w.toList.isPrefixOf (c :: s ++ u) = w.toList.isPrefixOf (c :: s ++ u') := by
      cases hw : w.toList with
      | nil => rfl
      | cons a w =>
        rw [hw] at hu hu'
        simp only [List.cons_append, List.isPrefixOf]
        rw [isPrefixOf_stop (w := w) hu, isPrefixOf_stop (w := w) hu']
    simp only [read?, hsame]
  | word w =>
    rw [read?_word, read?_word, startsWithWord_break hu hu' h]
    split
    · next hw =>
      have hlen := length_le_of_startsWithWord hu' hw
      rw [List.take_append_of_le_length hlen, List.take_append_of_le_length hlen]
    · rfl
  | _ => exact hu.elim

/-! ### Numbers, names and strings -/

theorem readNumber_break (hu : Breaks u) : readNumber (s ++ u) = readNumber s := by
  have hdigit : ∀ c ∈ u.head?, Text.isDigit c = false := fun c hc => (hu.of_head hc).1
  have hpoint : ∀ c ∈ u.head?, c ≠ '.' := fun c hc => (hu.of_head hc).2.1
  unfold readNumber
  simp only
  rw [takeWhile_stop hdigit, dropWhile_stop hdigit]
  rcases s.dropWhile Text.isDigit with _ | ⟨c, _ | ⟨d, t⟩⟩
  · cases u with
    | nil => rfl
    | cons c u => simp [hpoint c rfl]
  · by_cases hc : c = '.'
    · subst hc
      cases u with
      | nil => rfl
      | cons d u => simp [hdigit d rfl]
    · simp [hc]
  · by_cases hc : c = '.'
    · subst hc
      simp only [List.cons_append]
      rw [← List.cons_append, takeWhile_stop hdigit]
    · simp [hc]

/-- The sign of a type is no break. -/
theorem filter_break (hu : Breaks u) (t : List Char) :
    ((t ++ u).take 1).filter isTypeSign = (t.take 1).filter isTypeSign := by
  cases t with
  | nil =>
    cases u with
    | nil => rfl
    | cons c u => simp [(hu.of_head (c := c) rfl).2.2.1]
  | cons c t => rfl

theorem readIdent?_cons (c : Char) (s : List Char) :
    readIdent? (c :: s) = if isNameStart c then
      some ((c :: s).takeWhile isNameChar ++
          (((c :: s).dropWhile isNameChar).take 1).filter isTypeSign,
        .ident (String.ofList ((c :: s).takeWhile isNameChar))
          (String.ofList ((((c :: s).dropWhile isNameChar).take 1).filter isTypeSign)))
      else none := rfl

/-- What ends before a break ends there. -/
theorem span_within {p : Char → Bool} (h : (∀ c ∈ s, p c = true) → u.head?.any p = false) :
    (s ++ u).takeWhile p = s.takeWhile p ∧ (s ++ u).dropWhile p = s.dropWhile p ++ u := by
  induction s with
  | nil =>
    have hstop : ∀ c ∈ u.head?, p c = false := by
      intro c hc
      have hnone := h (by simp)
      rwa [Option.mem_def.1 hc] at hnone
    exact ⟨takeWhile_stop hstop, dropWhile_stop hstop⟩
  | cons c s ih =>
    by_cases hc : p c = true
    · have hs := ih fun hall => h (List.forall_mem_cons.2 ⟨hc, hall⟩)
      rw [List.cons_append, List.takeWhile_cons_of_pos hc, List.takeWhile_cons_of_pos hc,
        List.dropWhile_cons_of_pos hc, List.dropWhile_cons_of_pos hc, hs.1]
      exact ⟨rfl, hs.2⟩
    · rw [List.cons_append, List.takeWhile_cons_of_neg hc, List.takeWhile_cons_of_neg hc,
        List.dropWhile_cons_of_neg hc, List.dropWhile_cons_of_neg hc]
      exact ⟨rfl, rfl⟩

/-- A name that ends before a break, or at it, is there before any other. -/
theorem readIdent?_break (hu : Breaks u) (hu' : Breaks u') (h : SameBreak u u') (hs : s ≠ [])
    {q : Parts} (hread : readIdent? (s ++ u) = some (t, q)) (hlen : t.length ≤ s.length) :
    readIdent? (s ++ u') = some (t, q) := by
  obtain ⟨c, s, rfl⟩ := List.exists_cons_of_ne_nil hs
  rw [List.cons_append, readIdent?_cons] at hread ⊢
  by_cases hc : isNameStart c = true
  · rw [if_pos hc, ← List.cons_append] at hread
    rw [if_pos hc, ← List.cons_append]
    have hends : (∀ d ∈ c :: s, isNameChar d = true) → u.head?.any isNameChar = false := by
      intro hall
      cases u with
      | nil => rfl
      | cons d u =>
        refine Bool.eq_false_iff.2 fun hd => ?_
        cases hread
        rw [List.takeWhile_append_of_pos hall,
          List.takeWhile_cons_of_pos (p := isNameChar) hd] at hlen
        simp only [List.length_append, List.length_cons] at hlen
        omega
    obtain ⟨htake, hdrop⟩ := span_within hends
    obtain ⟨htake', hdrop'⟩ := span_within (u := u') fun hall => h.nameChar.symm.trans (hends hall)
    rw [htake, hdrop, filter_break hu] at hread
    rw [htake', hdrop', filter_break hu']
    exact hread
  · rw [if_neg hc] at hread
    cases hread

/-- Whether a character stands inside a string. -/
def isQuotable (c : Char) : Bool := c != '"' && c != '\n'

theorem readQuoted?_cons (s : List Char) :
    readQuoted? ('"' :: s) = if (s.dropWhile isQuotable).head? = some '"' then
      some ('"' :: s.takeWhile isQuotable ++ ['"'],
        .quoted (String.ofList (s.takeWhile isQuotable)))
      else none := by
  have hquotable : (fun c => c != '"' && c != '\n') = isQuotable := rfl
  simp only [readQuoted?, hquotable]
  rcases s.dropWhile isQuotable with _ | ⟨d, r⟩
  · rfl
  · by_cases hd : d = '"'
    · subst hd
      rfl
    · simp [hd]

/-- A string that ends before a text is there before any other. -/
theorem readQuoted?_break (hs : s ≠ []) {q : Parts} (hread : readQuoted? (s ++ u) = some (t, q))
    (hlen : t.length ≤ s.length) : readQuoted? (s ++ u') = some (t, q) := by
  obtain ⟨c, s, rfl⟩ := List.exists_cons_of_ne_nil hs
  by_cases hc : c = '"'
  · subst hc
    rw [List.cons_append, readQuoted?_cons] at hread ⊢
    -- the string would take up all that stands before the text, and its last mark as well
    have hends : ¬ ∀ d ∈ s, isQuotable d = true := by
      intro hall
      split at hread <;> cases hread
      rw [List.takeWhile_append_of_pos hall] at hlen
      simp only [List.length_append, List.length_cons, List.length_nil] at hlen
      omega
    have hne : s.dropWhile isQuotable ≠ [] := by
      intro hnil
      have hsplit := List.takeWhile_append_dropWhile (p := isQuotable) (l := s)
      rw [hnil, List.append_nil] at hsplit
      exact hends (List.all_eq_true.1 (hsplit ▸ List.all_takeWhile))
    have hhead : ∀ v, (s.dropWhile isQuotable ++ v).head? = (s.dropWhile isQuotable).head? := by
      intro v
      obtain ⟨d, r, hdr⟩ := List.exists_cons_of_ne_nil hne
      rw [hdr]
      rfl
    obtain ⟨htake, hdrop⟩ := span_within (u := u) fun hall => absurd hall hends
    obtain ⟨htake', hdrop'⟩ := span_within (u := u') fun hall => absurd hall hends
    rw [htake, hdrop, hhead] at hread
    rw [htake', hdrop', hhead]
    exact hread
  · simp [readQuoted?, hc] at hread

/-! ### Comments -/

theorem afterMark?_break (hu : Breaks u) (hs : s ≠ []) :
    afterMark? (s ++ u) = (afterMark? s).map (· ++ u) := by
  obtain ⟨c, s, rfl⟩ := List.exists_cons_of_ne_nil hs
  by_cases hc : c = '\''
  · subst hc
    rfl
  · have hem : ∀ d ∈ u.head?, ∀ e ∈ ['e', 'm'], Text.fold d ≠ Text.fold e := by
      intro d hd e he
      refine (hu.of_head hd).2.2.2.2 e ?_
      rw [letters_eq]
      exact List.mem_append_left _ he
    rw [afterMark?_of_ne (by simpa using hc), afterMark?_of_ne (by simpa using hc),
      List.cons_append, afterFolded?, afterFolded?]
    split
    · exact afterFolded?_stop hem
    · rfl

theorem startsRemark_break (hu : Breaks u) (hu' : Breaks u') (h : SameBreak u u') (hs : s ≠ []) :
    startsRemark (s ++ u) = startsRemark (s ++ u') := by
  by_cases hc : s.head? = some '\''
  · obtain ⟨s, rfl⟩ := List.head?_eq_some_iff.1 hc
    rfl
  · have hhead : ∀ v, (s ++ v).head? ≠ some '\'' := by
      intro v
      obtain ⟨d, r, rfl⟩ := List.exists_cons_of_ne_nil hs
      exact hc
    have hmark := afterMark?_break hu hs
    have hmark' := afterMark?_break hu' hs
    rw [afterMark?_of_ne (hhead u), afterMark?_of_ne hc] at hmark
    rw [afterMark?_of_ne (hhead u'), afterMark?_of_ne hc] at hmark'
    rw [startsRemark_of_ne (hhead u), startsRemark_of_ne (hhead u'), hmark, hmark', Option.any_map,
      Option.any_map]
    congr 1
    funext t
    exact h.outside_append t

/-- What makes a directive of a text, apart from where its command ends. -/
theorem isSome_readDirective? (s : List Char) :
    (readDirective? s).isSome = (afterMark? s).any fun t =>
      (afterFolded? "BSLINT_".toList (t.dropWhile (· == ' '))).any fun body =>
        body.head?.any isNameStart := by
  unfold readDirective?
  cases afterMark? s with
  | none => rfl
  | some t =>
    simp only [Option.bind_eq_bind, Option.bind_some, Option.any_some]
    cases afterFolded? "BSLINT_".toList (t.dropWhile (· == ' ')) with
    | none => rfl
    | some body =>
      simp only [Option.bind_some, Option.any_some]
      cases body with
      | nil => rfl
      | cons c body =>
        by_cases hc : isNameStart c = true <;> simp [hc]

/-- Whether a directive starts before a break does not depend on what makes the break. -/
theorem readDirective?_break (hu : Breaks u) (hu' : Breaks u') (h : SameBreak u u') (hs : s ≠ []) :
    (readDirective? (s ++ u)).isSome = (readDirective? (s ++ u')).isSome := by
  have hblank : ∀ {v : List Char}, Breaks v → ∀ c ∈ v.head?, (c == ' ') = false :=
    fun hv c hc => beq_eq_false_iff_ne.2 (hv.of_head hc).2.2.2.1
  have hname : ∀ {v : List Char}, Breaks v → ∀ c ∈ v.head?, ∀ d ∈ "BSLINT_".toList,
      Text.fold c ≠ Text.fold d := by
    intro v hv c hc d hd
    refine (hv.of_head hc).2.2.2.2 d ?_
    rw [letters_eq]
    exact List.mem_append_right _ hd
  rw [isSome_readDirective?, isSome_readDirective?, afterMark?_break hu hs, afterMark?_break hu' hs,
    Option.any_map, Option.any_map]
  congr 1
  funext t
  simp only [dropWhile_stop (hblank hu), dropWhile_stop (hblank hu'), afterFolded?_stop (hname hu),
    afterFolded?_stop (hname hu'), Option.any_map]
  congr 1
  funext body
  cases body with
  | nil => exact h.nameStart
  | cons c body => rfl

end Breaks

/-! ### Cutting a text -/

namespace Lexeme

variable {s u u' : List Char} {x : Lexeme}

/-- The rules in the order in which they are tried. -/
theorem first?_eq (s : List Char) :
    first? s = (closedRules.findSome? (·.read? s)).or
      ((Rule.read? ⟨.directive, .directive, .directive, 0⟩ s).or
      ((Rule.read? ⟨.remark, .comment, .comment, 0⟩ s).or
      ((Rule.read? ⟨.ident, .ident, .ident, 0⟩ s).or
      ((Rule.read? ⟨.quoted, .string, .value, 0⟩ s).or
      (Rule.read? ⟨.number, .number, .value, 0⟩ s))))) := by
  have hcons : ∀ (rule : Rule) (rules : List Rule),
      (rule :: rules).findSome? (·.read? s) = (rule.read? s).or (rules.findSome? (·.read? s)) := by
    intro rule rules
    rw [List.findSome?_cons]
    cases rule.read? s <;> rfl
  rw [first?, lexemeRules_eq, List.findSome?_append]
  simp only [openRules, hcons, List.findSome?_nil, Option.or_none]

theorem readDirective?_eq_none (hu : Breaks u) (hu' : Breaks u') (h : SameBreak u u') (hs : s ≠ [])
    (hnone : Rule.read? ⟨.directive, .directive, .directive, 0⟩ (s ++ u) = none) :
    Rule.read? ⟨.directive, .directive, .directive, 0⟩ (s ++ u') = none := by
  have hsame := readDirective?_break hu hu' h hs
  simp only [Rule.read?, Shape.read?, Option.map_eq_none_iff] at hnone ⊢
  rwa [hnone, Option.isSome_none, eq_comm, Option.isSome_eq_false_iff,
    Option.isNone_iff_eq_none] at hsame

theorem readRemark?_eq_none (hu : Breaks u) (hu' : Breaks u') (h : SameBreak u u') (hs : s ≠ [])
    (hnone : Rule.read? ⟨.remark, .comment, .comment, 0⟩ (s ++ u) = none) :
    Rule.read? ⟨.remark, .comment, .comment, 0⟩ (s ++ u') = none := by
  simp only [Rule.read?, Shape.read?, startsRemark_break hu hu' h hs, Option.map_eq_none_iff]
    at hnone ⊢
  split at hnone
  · cases hnone
  · next hstarts => rw [if_neg hstarts]

/-- Names and strings that end before a break, and numbers, are there before another one. -/
theorem readValue?_break (hu : Breaks u) (hu' : Breaks u') (h : SameBreak u u') (hs : s ≠ [])
    (hx : (Rule.read? ⟨.ident, .ident, .ident, 0⟩ (s ++ u)).or
      ((Rule.read? ⟨.quoted, .string, .value, 0⟩ (s ++ u)).or
      (Rule.read? ⟨.number, .number, .value, 0⟩ (s ++ u))) = some x)
    (hlen : x.text.length ≤ s.length) :
    (Rule.read? ⟨.ident, .ident, .ident, 0⟩ (s ++ u')).or
      ((Rule.read? ⟨.quoted, .string, .value, 0⟩ (s ++ u')).or
      (Rule.read? ⟨.number, .number, .value, 0⟩ (s ++ u'))) = some x := by
  rcases Option.or_eq_some_iff.1 hx with hx | ⟨hident, hx⟩
  · obtain ⟨⟨t, q⟩, hread, rfl⟩ := Option.map_eq_some_iff.1 hx
    have hread' : Shape.ident.read? (s ++ u') = some (t, q) :=
      readIdent?_break hu hu' h hs hread hlen
    rw [Rule.read?, hread']
    rfl
  have hident' : Rule.read? ⟨.ident, .ident, .ident, 0⟩ (s ++ u') = none := by
    obtain ⟨c, s, rfl⟩ := List.exists_cons_of_ne_nil hs
    simp only [Rule.read?, Shape.read?, Option.map_eq_none_iff, List.cons_append, readIdent?_cons]
      at hident ⊢
    split at hident
    · cases hident
    · next hc => rw [if_neg hc]
  rw [hident', Option.none_or]
  rcases Option.or_eq_some_iff.1 hx with hx | ⟨-, hx⟩
  · obtain ⟨⟨t, q⟩, hread, rfl⟩ := Option.map_eq_some_iff.1 hx
    have hread' : Shape.quoted.read? (s ++ u') = some (t, q) := readQuoted?_break hs hread hlen
    rw [Rule.read?, hread']
    rfl
  have hnumber : Shape.number.read? (s ++ u') = Shape.number.read? (s ++ u) := by
    simp only [Shape.read?, readNumber_break hu, readNumber_break hu']
  have hquoted' : Rule.read? ⟨.quoted, .string, .value, 0⟩ (s ++ u') = none := by
    -- a number does not start with a quotation mark
    obtain ⟨c, s, rfl⟩ := List.exists_cons_of_ne_nil hs
    have hc : c ≠ '"' := by
      rintro rfl
      cases hx
    simp [Rule.read?, Shape.read?, readQuoted?, hc]
  rw [hquoted', Option.none_or, Rule.read?, hnumber]
  exact hx

/-- **The lexeme before a break** is the same before another one, unless it goes beyond or is a
comment. -/
theorem first?_break (hu : Breaks u) (hu' : Breaks u') (h : SameBreak u u') (hs : s ≠ [])
    (hx : first? (s ++ u) = some x) (hlen : x.text.length ≤ s.length)
    (hkind : x.kind ≠ .directive ∧ x.kind ≠ .comment) : first? (s ++ u') = some x := by
  have hclosed : closedRules.findSome? (·.read? (s ++ u)) =
      closedRules.findSome? (·.read? (s ++ u')) :=
    findSome?_read? fun rule hrule =>
      Shape.read?_break (hu.closed rule hrule) (hu'.closed rule hrule) h hs
  rw [first?_eq] at hx ⊢
  rw [← hclosed]
  rcases Option.or_eq_some_iff.1 hx with hx | ⟨hnone, hx⟩
  · rw [hx]
    rfl
  rcases Option.or_eq_some_iff.1 hx with hx | ⟨hdirective, hx⟩
  · obtain ⟨_, -, rfl⟩ := Option.map_eq_some_iff.1 hx
    exact absurd rfl hkind.1
  rcases Option.or_eq_some_iff.1 hx with hx | ⟨hremark, hx⟩
  · obtain ⟨_, -, rfl⟩ := Option.map_eq_some_iff.1 hx
    exact absurd rfl hkind.2
  rw [hnone, readDirective?_eq_none hu hu' h hs hdirective, readRemark?_eq_none hu hu' h hs hremark,
    Option.none_or, Option.none_or, Option.none_or]
  exact readValue?_break hu hu' h hs hx hlen

theorem lexemeRules_comment : ∀ rule ∈ lexemeRules, rule.kind = .directive ∨ rule.kind = .comment →
    rule.shape = .directive ∨ rule.shape = .remark := by
  decide +kernel

/-- A comment takes up the rest of its line. -/
theorem text_of_comment (hx : first? s = some x) (hkind : x.kind = .directive ∨ x.kind = .comment) :
    x.text = Text.firstLine s := by
  obtain ⟨rule, hrule, hread⟩ := List.exists_of_findSome?_eq_some hx
  obtain ⟨⟨t, q⟩, ht, rfl⟩ := Option.map_eq_some_iff.1 hread
  rcases lexemeRules_comment rule hrule hkind with hshape | hshape <;> rw [hshape] at ht
  · obtain ⟨_, -, he⟩ := Option.map_eq_some_iff.1 ht
    cases he
    rfl
  · simp only [Shape.read?] at ht
    split at ht <;> cases ht
    rfl

/-- The same with comments, which end before a break only if it is the end of their line. -/
theorem first?_beforeBreak (hu : Breaks u) (hu' : Breaks u') (h : SameBreak u u') (hs : s ≠ [])
    (hx : first? (s ++ u) = some x) (hlen : x.text.length ≤ s.length)
    (hkind : x.kind = .directive ∨ x.kind = .comment → Text.firstLine u ≠ []) :
    first? (s ++ u') = some x := by
  by_cases hline : '\n' ∈ s
  · obtain ⟨a, b, rfl, -⟩ := List.eq_append_cons_of_mem hline
    rw [List.append_assoc, List.cons_append] at hx ⊢
    by_cases ha : a = []
    · subst ha
      exact hx
    · rwa [first?_line _ ha] at hx ⊢
  · refine first?_break hu hu' h hs hx hlen (not_or.1 fun hcomment => ?_)
    have hall : ∀ c ∈ s, (c != '\n') = true := fun c hc => bne_iff_ne.2 fun he => hline (he ▸ hc)
    have hpos := List.length_pos_iff.2 (hkind hcomment)
    rw [text_of_comment hx hcomment, Text.firstLine, List.takeWhile_append_of_pos hall,
      List.length_append] at hlen
    unfold Text.firstLine at hpos
    omega

end Lexeme

/-- **What stands before a break** is cut into the same lexemes before another one. -/
theorem scan_break {u u' : List Char} (hu : Breaks u) (hu' : Breaks u') (h : SameBreak u u')
    {ys zs : List Lexeme} (hscan : (scan (joined ys ++ u)).1 = ys ++ zs)
    (hys : ∀ y ∈ ys, y.kind = .directive ∨ y.kind = .comment → Text.firstLine u ≠ []) :
    scan (joined ys ++ u') = (ys ++ (scan u').1, (scan u').2) := by
  induction ys with
  | nil => rfl
  | cons y ys ih =>
    obtain ⟨hy, hys⟩ := List.forall_mem_cons.1 hys
    have hfirst : Lexeme.first? (joined (y :: ys) ++ u) = some y :=
      first?_of_scan (Prod.ext hscan rfl)
    have hne := Lexeme.first?_ne_nil hfirst
    have hjoin : joined (y :: ys) = y.text ++ joined ys := rfl
    have hdrop : ∀ v, (joined (y :: ys) ++ v).drop y.text.length = joined ys ++ v := by
      intro v
      rw [hjoin, List.append_assoc, List.drop_left]
    have hfirst' : Lexeme.first? (joined (y :: ys) ++ u') = some y := by
      refine Lexeme.first?_beforeBreak hu hu' h ?_ hfirst ?_ hy
      · rw [hjoin]
        exact List.append_ne_nil_of_left_ne_nil hne _
      · rw [hjoin, List.length_append]
        exact Nat.le_add_right _ _
    rw [scan_of_some hfirst, hdrop] at hscan
    rw [scan_of_some hfirst', hdrop, ih (List.cons.inj hscan).2 hys]
    rfl

/-! ### The end of a text, colons and comments -/

/-- Whether a shape of white space, signs or words has a character nowhere but at its head, and
words not even there. -/
def Shape.avoids (c : Char) : Shape → Bool
  | .lineFeed | .blank => true
  | .sign t => !t.toList.tail.contains c
  | .word t => t.toList.all fun d => Text.fold c != Text.fold d
  | _ => false

theorem isCutBy_of_ne {u w : List Char} (h : ∀ c ∈ u.head?, ∀ d ∈ w, Text.fold c ≠ Text.fold d) :
    IsCutBy u w := by
  induction w with
  | nil => trivial
  | cons d w ih =>
    refine ⟨?_, ih fun c hc e he => h c hc e (List.mem_cons_of_mem _ he)⟩
    cases u with
    | nil => rfl
    | cons c u => simp [startsWithWord, afterFolded?, h c rfl d List.mem_cons_self]

theorem Shape.endsBefore_of_avoids {sh : Shape} {u : List Char} {c : Char}
    (h : sh.avoids c = true) (hu : ∀ d ∈ u.head?, d = c) : sh.EndsBefore u := by
  cases sh with
  | lineFeed => trivial
  | blank => trivial
  | sign t =>
    intro d hd hmem
    cases hu d hd
    simp [avoids, hmem] at h
  | word t =>
    refine isCutBy_of_ne fun d hd e he => ?_
    cases hu d hd
    simp only [avoids, List.all_eq_true, bne_iff_ne] at h
    exact h e he
  | _ => cases h

theorem closedRules_avoid_colon : (closedRules.all fun rule => rule.shape.avoids ':') = true := by
  decide +kernel

theorem breaks_nil : Breaks [] :=
  ⟨fun rule hrule => Shape.endsBefore_of_avoids
    (List.all_eq_true.1 closedRules_avoid_colon rule hrule) (by simp), by simp⟩

theorem breaks_colon (r : List Char) : Breaks (':' :: r) :=
  ⟨fun rule hrule => Shape.endsBefore_of_avoids
    (List.all_eq_true.1 closedRules_avoid_colon rule hrule) (by simp), by
      have hbreak : isBreak ':' = true := rfl
      simpa using hbreak⟩

theorem sameBreak_nil_colon (r : List Char) : SameBreak [] (':' :: r) := by
  have hword : Text.isWordChar ':' = false := rfl
  have hstart : isNameStart ':' = false := rfl
  have hname : isNameChar ':' = false := rfl
  exact ⟨by simp [Text.startsOutsideWord, hword], by simp [hstart], by simp [hname]⟩

/-! ### Marks of comments -/

/-- Whether no end of a word starts like the mark of a comment. -/
def lacksRemark : List Char → Bool
  | [] => true
  | c :: w => (afterFolded? ['r', 'e', 'm'] (c :: w)).isNone && lacksRemark w

/-- Whether a shape of white space, signs or words has nothing to do with the mark of a comment. -/
def Shape.isUnmarked : Shape → Bool
  | .lineFeed | .blank => true
  | .sign t => t.toList.all fun d => d != '\'' && Text.fold 'r' != Text.fold d
  | .word t => lacksRemark t.toList && t.toList.all fun d => Text.fold '\'' != Text.fold d
  | _ => false

theorem closedRules_isUnmarked : (closedRules.all fun rule => rule.shape.isUnmarked) = true := by
  decide +kernel

/-- The marks of comments. -/
theorem mark_cases {mark : List Char} (h : afterMark? mark = some []) :
    mark = ['\''] ∨ ∃ a b c, mark = [a, b, c] ∧ (a = 'r' ∨ a = 'R') ∧ (b = 'e' ∨ b = 'E') ∧
      (c = 'm' ∨ c = 'M') := by
  by_cases hq : mark.head? = some '\''
  · obtain ⟨r, rfl⟩ := List.head?_eq_some_iff.1 hq
    exact .inl (congrArg _ (Option.some.inj h))
  · rw [afterMark?_of_ne hq] at h
    have hlen := afterFolded?_length h
    rcases mark with _ | ⟨a, _ | ⟨b, _ | ⟨c, _ | ⟨d, r⟩⟩⟩⟩ <;> simp at hlen
    simp only [afterFolded?, beq_iff_eq] at h
    split at h
    · next ha =>
      split at h
      · next hb =>
        split at h
        · next hc =>
          exact .inr ⟨a, b, c, rfl, Text.eq_of_fold (by decide) ha, Text.eq_of_fold (by decide) hb,
            Text.eq_of_fold (by decide) hc⟩
        · cases h
      · cases h
    · cases h

theorem isCutBy_remark {a b c : Char} (v : List Char) {w : List Char}
    (ha : Text.fold a = Text.fold 'r') (hb : Text.fold b = Text.fold 'e')
    (hc : Text.fold c = Text.fold 'm') (hbword : Text.isWordChar b = true)
    (hcword : Text.isWordChar c = true) (hw : lacksRemark w = true) :
    IsCutBy (a :: b :: c :: v) w := by
  induction w with
  | nil => trivial
  | cons x w ih =>
    obtain ⟨hnone, hw⟩ := Bool.and_eq_true_iff.1 hw
    refine ⟨?_, ih hw⟩
    -- a word that ends inside the mark does not end there, and none goes on after it
    rcases w with _ | ⟨y, _ | ⟨z, w⟩⟩
    · by_cases hx : Text.fold a = Text.fold x <;>
        simp [startsWithWord, afterFolded?, Text.startsOutsideWord, hx, hbword]
    · by_cases hx : Text.fold a = Text.fold x <;> by_cases hy : Text.fold b = Text.fold y <;>
        simp [startsWithWord, afterFolded?, Text.startsOutsideWord, hx, hy, hcword]
    · simp only [startsWithWord, afterFolded?, ha, hb, hc]
      simp only [afterFolded?, beq_iff_eq, eq_comm (a := Text.fold x), eq_comm (a := Text.fold y),
        eq_comm (a := Text.fold z)] at hnone
      by_cases hx : Text.fold 'r' = Text.fold x <;> by_cases hy : Text.fold 'e' = Text.fold y <;>
        by_cases hz : Text.fold 'm' = Text.fold z <;> simp [hx, hy, hz] at hnone ⊢

theorem Shape.endsBefore_of_isUnmarked {sh : Shape} {u : List Char} (h : sh.isUnmarked = true)
    (hhead : ∀ c ∈ u.head?, c = '\'' ∨ Text.fold c = Text.fold 'r')
    (hwords : ∀ w, lacksRemark w = true → (∀ d ∈ w, Text.fold '\'' ≠ Text.fold d) → IsCutBy u w) :
    sh.EndsBefore u := by
  cases sh with
  | lineFeed => trivial
  | blank => trivial
  | sign t =>
    intro c hc hmem
    have hall := List.all_eq_true.1 h c (List.mem_of_mem_tail hmem)
    rcases hhead c hc with rfl | hfold
    · simp at hall
    · simp [hfold] at hall
  | word t =>
    obtain ⟨hlacks, hall⟩ := Bool.and_eq_true_iff.1 h
    exact hwords t.toList hlacks fun d hd => bne_iff_ne.1 (List.all_eq_true.1 hall d hd)
  | _ => cases h

/-- **A comment** puts an end to what stands before it. -/
theorem breaks_mark {mark : List Char} (h : afterMark? mark = some []) (v : List Char) :
    Breaks (mark ++ v) := by
  have hunmarked := List.all_eq_true.1 closedRules_isUnmarked
  rcases mark_cases h with rfl | ⟨a, b, c, rfl, ha, hb, hc⟩
  · have hbreak : isBreak '\'' = true := rfl
    refine ⟨fun rule hrule => ?_, by simpa using hbreak⟩
    refine Shape.endsBefore_of_isUnmarked (hunmarked rule hrule) (by simp) fun w _ hw => ?_
    exact isCutBy_of_ne (by simpa using hw)
  · have hr : Text.fold a = Text.fold 'r' := by rcases ha with rfl | rfl <;> rfl
    have he : Text.fold b = Text.fold 'e' := by rcases hb with rfl | rfl <;> rfl
    have hm : Text.fold c = Text.fold 'm' := by rcases hc with rfl | rfl <;> rfl
    have hbword : Text.isWordChar b = true := by rcases hb with rfl | rfl <;> rfl
    have hcword : Text.isWordChar c = true := by rcases hc with rfl | rfl <;> rfl
    have hbreak : isBreak a = true := by rcases ha with rfl | rfl <;> rfl
    refine ⟨fun rule hrule => ?_, by simpa using hbreak⟩
    refine Shape.endsBefore_of_isUnmarked (hunmarked rule hrule) (by simp [hr]) fun w hw _ => ?_
    exact isCutBy_remark v hr he hm hbword hcword hw

theorem mark_ne_nil {mark : List Char} (h : afterMark? mark = some []) : mark ≠ [] := by
  rintro rfl
  cases h

theorem sameBreak_mark {mark : List Char} (h : afterMark? mark = some []) (v v' : List Char) :
    SameBreak (mark ++ v) (mark ++ v') := by
  obtain ⟨c, r, rfl⟩ := List.exists_cons_of_ne_nil (mark_ne_nil h)
  exact ⟨rfl, rfl, rfl⟩

theorem head_of_mark {mark : List Char} (h : afterMark? mark = some []) (v : List Char) :
    ∃ c r, mark ++ v = c :: r ∧ c ≠ '\n' ∧ Text.isBlank c = false ∧
      (c = '\'' ∨ Text.fold c = Text.fold 'r') := by
  rcases mark_cases h with rfl | ⟨a, b, c, rfl, ha, -, -⟩
  · exact ⟨_, _, rfl, by decide, rfl, .inl rfl⟩
  · refine ⟨_, _, rfl, ?_⟩
    rcases ha with rfl | rfl
    · exact ⟨by decide, rfl, .inr rfl⟩
    · exact ⟨by decide, rfl, .inr rfl⟩

/-- Only directives and other comments start with the mark of a comment. -/
theorem findSome?_mark {mark : List Char} (h : afterMark? mark = some []) (v : List Char) :
    closedRules.findSome? (·.read? (mark ++ v)) = none := by
  refine List.findSome?_eq_none_iff.2 fun rule hrule => ?_
  have hends := (breaks_mark h v).closed rule hrule
  have hunmarked := List.all_eq_true.1 closedRules_isUnmarked rule hrule
  have hsolid := lexemeRules_isSolid rule (List.mem_append_left _ hrule)
  obtain ⟨c, r, hmark, hline, hblank, hhead⟩ := head_of_mark h v
  rw [hmark] at hends
  rw [Rule.read?, Option.map_eq_none_iff, hmark]
  cases hshape : rule.shape with
  | lineFeed => simp [Shape.read?, hline]
  | blank => simp [Shape.read?, hblank]
  | sign t =>
    rw [hshape] at hsolid hunmarked
    have hprefix : t.toList.isPrefixOf (c :: r) = false := by
      rcases ht : t.toList with _ | ⟨d, w⟩
      · simp [Shape.isSolid, ht] at hsolid
      · have hall := List.all_eq_true.1 hunmarked d (by simp [ht])
        simp only [Bool.and_eq_true, bne_iff_ne] at hall
        have hne : d ≠ c := by
          rintro rfl
          rcases hhead with rfl | hfold
          · exact hall.1 rfl
          · exact hall.2 hfold.symm
        simp [List.isPrefixOf, hne]
    simp [Shape.read?, hprefix]
  | word t =>
    rw [hshape] at hsolid hends
    have hword : startsWithWord t.toList (c :: r) = false := by
      have hends : IsCutBy (c :: r) t.toList := hends
      rcases ht : t.toList with _ | ⟨d, w⟩
      · simp [Shape.isSolid, ht] at hsolid
      · rw [ht] at hends
        exact hends.1
    rw [Shape.read?_word, hword]
    rfl
  | _ =>
    rw [hshape] at hunmarked
    cases hunmarked

/-- An ordinary comment. -/
theorem Lexeme.first?_remark {mark : List Char} (h : afterMark? mark = some []) {v : List Char}
    (hremark : startsRemark (mark ++ v) = true) (hdirective : readDirective? (mark ++ v) = none) :
    first? (mark ++ v) = some ⟨Text.firstLine (mark ++ v), .plain, .comment, .comment, 0⟩ := by
  rw [first?_eq, findSome?_mark h v, Option.none_or]
  simp only [Rule.read?, Shape.read?, hdirective, hremark, if_true, Option.map_none,
    Option.map_some, Option.none_or, Option.some_or]

end BrightLint
