import BrightLint.Proofs.ScanBreaks

/-!
Words and names. A text of ASCII characters that starts with a letter or an underscore starts with a
word: its longest beginning of letters, digits and underscores. No lexeme ends inside that word, in
whatever order the rules for reserved words and phrases are tried, and the lexeme is a name unless
the word is reserved, in any case of its letters, or makes a directive together with `rem`.

* `Text.leadingWord`, `Text.lowered`: the word at the head of a text, and its lower case
* `reservedWords`: the words that have a rule of their own; `joinsDirective`: those that hold a
  directive
* `Shape.read?_leadingWord`: what comes before names covers the word and has a reason to
* `Lexeme.first?_leadingWord`: the first lexeme of a text that starts with a word
-/

namespace BrightLint

/-! ### Plain words -/

namespace Text

/-- The letters, digits and the underscore of ASCII. -/
def isPlainWord (c : Char) : Bool := c.isAlphanum || c == '_'

/-- The letters and the underscore of ASCII. -/
def isPlainStart (c : Char) : Bool := c.isAlpha || c == '_'

/-- The word at the head of a text. -/
def leadingWord (s : List Char) : List Char := s.takeWhile isPlainWord

/-- A word in lower case. -/
def lowered (w : List Char) : List Char := w.map Char.toLower

/-- All characters are those of ASCII. -/
def IsAscii (s : List Char) : Prop := ∀ c ∈ s, c.toNat < 0x80

theorem plain_ascii : ((List.range 0x80).all fun n =>
    isNameStart (Char.ofNat n) == isPlainStart (Char.ofNat n) &&
      (isNameChar (Char.ofNat n) == isPlainWord (Char.ofNat n) &&
        (isPlainStart (Char.ofNat n).toLower == isPlainStart (Char.ofNat n) &&
          (isPlainWord (Char.ofNat n).toLower == isPlainWord (Char.ofNat n) &&
            !(isPlainWord (Char.ofNat n) && isBlank (Char.ofNat n)))))) = true := by
  decide +kernel

theorem plain_of_ascii {c : Char} (h : c.toNat < 0x80) :
    isNameStart c = isPlainStart c ∧ isNameChar c = isPlainWord c ∧
      isPlainStart c.toLower = isPlainStart c ∧ isPlainWord c.toLower = isPlainWord c ∧
      (isPlainWord c && isBlank c) = false := by
  have hall := List.all_eq_true.1 plain_ascii c.toNat (List.mem_range.2 h)
  rw [Char.ofNat_toNat] at hall
  simpa only [Bool.and_eq_true, beq_iff_eq, Bool.not_eq_true'] using hall

theorem toLower_of_not_ascii {c : Char} (h : ¬ c.toNat < 0x80) : c.toLower = c := by
  unfold Char.toLower
  refine dif_neg fun hupper => h ?_
  have hle : c.toNat ≤ 90 := UInt32.le_iff_toNat_le.1 hupper.2
  omega

theorem isPlainWord_toLower (c : Char) : isPlainWord c.toLower = isPlainWord c := by
  by_cases h : c.toNat < 0x80
  · exact (plain_of_ascii h).2.2.2.1
  · rw [toLower_of_not_ascii h]

theorem isPlainStart_toLower (c : Char) : isPlainStart c.toLower = isPlainStart c := by
  by_cases h : c.toNat < 0x80
  · exact (plain_of_ascii h).2.2.1
  · rw [toLower_of_not_ascii h]

theorem isPlainWord_of_isPlainStart {c : Char} (h : isPlainStart c = true) :
    isPlainWord c = true := by
  simp only [isPlainStart, isPlainWord, Char.isAlphanum, Bool.or_eq_true] at h ⊢
  exact h.imp_left .inl

theorem isWordChar_of_ascii {c : Char} (h : c.toNat < 0x80) : isWordChar c = isPlainWord c := by
  unfold isWordChar isLetter isNumeral
  rw [if_pos h, if_pos h]
  rfl

theorem leadingWord_lowered (s : List Char) :
    leadingWord (lowered s) = lowered (leadingWord s) := by
  have hclass : isPlainWord ∘ Char.toLower = isPlainWord := funext isPlainWord_toLower
  unfold leadingWord lowered
  rw [List.takeWhile_map, hclass]

variable {s u r : List Char}

theorem IsAscii.append_left (h : IsAscii (u ++ r)) : IsAscii u :=
  fun c hc => h c (List.mem_append_left _ hc)

theorem IsAscii.append_right (h : IsAscii (u ++ r)) : IsAscii r :=
  fun c hc => h c (List.mem_append_right _ hc)

theorem IsAscii.map_fold (h : IsAscii s) : s.map fold = lowered s :=
  List.map_congr_left fun c hc => fold_of_ascii (h c hc)

/-- Where no word goes on, no plain one does. -/
theorem IsAscii.startsOutsideWord_iff (h : IsAscii r) :
    startsOutsideWord r = true ↔ ∀ c ∈ r.head?, isPlainWord c = false := by
  cases r with
  | nil => exact ⟨fun _ c hc => absurd hc (Option.not_mem_none c), fun _ => rfl⟩
  | cons d r =>
    rw [startsOutsideWord, isWordChar_of_ascii (h d List.mem_cons_self), Bool.not_eq_true']
    exact ⟨fun hd c hc => Option.some.inj hc ▸ hd, fun hd => hd d rfl⟩

/-- After the word at the head of a text no word goes on. -/
theorem IsAscii.startsOutsideWord_drop (h : IsAscii s) :
    startsOutsideWord (s.dropWhile isPlainWord) = true := by
  have hrest : IsAscii (s.dropWhile isPlainWord) :=
    fun c hc => h c ((List.dropWhile_suffix _).subset hc)
  refine hrest.startsOutsideWord_iff.2 fun c hc => ?_
  have hstop := List.head?_dropWhile_not isPlainWord s
  rw [Option.mem_def.1 hc] at hstop
  exact hstop

/-- The word at the head of a text ends where no word goes on. -/
theorem IsAscii.leadingWord_append (h : IsAscii r) (hr : startsOutsideWord r = true) :
    leadingWord (u ++ r) = leadingWord u :=
  takeWhile_stop (h.startsOutsideWord_iff.1 hr)

theorem leadingWord_prefix_firstLine (s : List Char) : leadingWord s <+: firstLine s := by
  unfold leadingWord firstLine
  induction s with
  | nil => exact List.prefix_refl _
  | cons c s ih =>
    by_cases hc : isPlainWord c = true
    · have hfeed : c ≠ '\n' := by
        rintro rfl
        revert hc
        decide
      rw [List.takeWhile_cons_of_pos hc, List.takeWhile_cons, if_pos (bne_iff_ne.2 hfeed)]
      exact (List.prefix_cons_inj c).2 ih
    · rw [List.takeWhile_cons_of_neg hc]
      exact List.nil_prefix

end Text

open Text

/-! ### Words and phrases -/

section Words

variable {s t w : List Char}

theorem startsWithWord_iff : startsWithWord w s = true ↔
    ∃ u r, s = u ++ r ∧ u.map fold = w.map fold ∧ startsOutsideWord r = true := by
  unfold startsWithWord
  rw [Option.any_eq_true]
  constructor
  · rintro ⟨r, hafter, hr⟩
    obtain ⟨u, hs, hu⟩ := afterFolded?_eq_some_iff.1 hafter
    exact ⟨u, r, hs, hu, hr⟩
  · rintro ⟨u, r, hs, hu, hr⟩
    exact ⟨r, afterFolded?_eq_some_iff.2 ⟨u, hs, hu⟩, hr⟩

/-- A word or phrase that is found at the head of a text covers the first word of the text, and
starts with it. -/
theorem leadingWord_of_startsWithWord (hs : IsAscii s) (hw : IsAscii w)
    (h : startsWithWord w s = true) :
    leadingWord s <+: s.take w.length ∧ lowered (leadingWord s) = leadingWord (lowered w) := by
  obtain ⟨u, r, rfl, hu, hr⟩ := startsWithWord_iff.1 h
  have hlength : u.length = w.length := by simpa using congrArg List.length hu
  rw [hs.append_right.leadingWord_append hr, ← hlength, List.take_left, ← leadingWord_lowered,
    ← hs.append_left.map_fold, hu, hw.map_fold]
  exact ⟨List.takeWhile_prefix _, rfl⟩

/-- The first word of a text is found at its head. -/
theorem startsWithWord_of_leadingWord (hs : IsAscii s) (hw : IsAscii w)
    (h : lowered (leadingWord s) = lowered w) : startsWithWord w s = true := by
  have hword : IsAscii (leadingWord s) := fun c hc => hs c ((List.takeWhile_prefix _).subset hc)
  refine startsWithWord_iff.2 ⟨leadingWord s, s.dropWhile isPlainWord,
    List.takeWhile_append_dropWhile.symm, ?_, hs.startsOutsideWord_drop⟩
  rw [hword.map_fold, h, hw.map_fold]

end Words

/-! ### Reserved words -/

/-- The reserved word that a shape stands for, in lower case; phrases of two words are none. -/
def Shape.reserved? : Shape → Option (List Char)
  | .word t => if t.toList.contains ' ' then none else some (lowered t.toList)
  | .remark => some ['r', 'e', 'm']
  | _ => none

/-- The reserved words of the language in lower case, `rem` among them. -/
def reservedWords : List (List Char) := lexemeRules.filterMap (·.shape.reserved?)

/-- Whether a word in lower case is a directive that follows `rem` without a space. -/
def joinsDirective (w : List Char) : Bool :=
  "rembslint_".toList.isPrefixOf w &&
    (w.drop "rembslint_".toList.length).head?.any isPlainStart

/-- The rules that are tried before that for names. -/
def earlierRules : List Rule :=
  closedRules ++ [⟨.directive, .directive, .directive, 0⟩, ⟨.remark, .comment, .comment, 0⟩]

/-- The rule for names, and those that are tried after it. -/
def nameRules : List Rule :=
  [⟨.ident, .ident, .ident, 0⟩, ⟨.quoted, .string, .value, 0⟩, ⟨.number, .number, .value, 0⟩]

theorem lexemeRules_split : lexemeRules = earlierRules ++ nameRules := by
  rw [lexemeRules_eq, earlierRules, List.append_assoc]
  exact congrArg (closedRules ++ ·) rfl

/-- Whether a shape leaves words whole: signs do not start with a character of words, and what is
more than one word starts with a reserved one. -/
def Shape.sparesWords : Shape → Bool
  | .lineFeed | .blank | .directive | .remark => true
  | .sign t => !(t.toList.head?.any isPlainWord) && !t.toList.isEmpty
  | .word t =>
    t.toList.all (·.toNat < 0x80) &&
      (t.toList.all isPlainWord || reservedWords.contains (leadingWord (lowered t.toList)))
  | _ => false

theorem earlierRules_spareWords : (earlierRules.all fun rule =>
    rule.shape.sparesWords && rule.kind != .ident) = true := by
  decide +kernel

theorem mem_reservedWords {rule : Rule} {w : List Char} (hrule : rule ∈ earlierRules)
    (h : rule.shape.reserved? = some w) : w ∈ reservedWords :=
  List.mem_filterMap.2 ⟨rule, lexemeRules_split ▸ List.mem_append_left _ hrule, h⟩

theorem mem_reservedWords_rem : ['r', 'e', 'm'] ∈ reservedWords :=
  mem_reservedWords (List.mem_append_right _ (List.mem_cons_of_mem _ List.mem_cons_self)) rfl

/-- The first word of a word or phrase of the table is reserved. -/
theorem mem_reservedWords_leadingWord {rule : Rule} {t : String} (hrule : rule ∈ earlierRules)
    (ht : rule.shape = .word t) (hspares : rule.shape.sparesWords = true) :
    leadingWord (lowered t.toList) ∈ reservedWords := by
  rw [ht] at hspares
  rcases Bool.or_eq_true_iff.1 (Bool.and_eq_true_iff.1 hspares).2 with hplain | hphrase
  · have hwhole : leadingWord (t.toList ++ []) = t.toList ++ [] :=
      List.takeWhile_append_of_pos (List.all_eq_true.1 hplain)
    rw [List.append_nil] at hwhole
    have hspace : t.toList.contains ' ' = false := by
      rw [Bool.eq_false_iff]
      intro hmem
      exact absurd (List.all_eq_true.1 hplain ' ' (List.contains_iff_mem.1 hmem)) (by decide)
    rw [leadingWord_lowered, hwhole]
    refine mem_reservedWords hrule ?_
    rw [ht, Shape.reserved?, hspace]
    rfl
  · exact List.contains_iff_mem.1 hphrase

section Reserved

variable {s t : List Char} {q : Parts}

theorem isAscii_of_all {w : List Char} (h : (w.all fun c => decide (c.toNat < 0x80)) = true) :
    IsAscii w :=
  fun c hc => of_decide_eq_true (List.all_eq_true.1 h c hc)

theorem isAscii_rem : IsAscii ['r', 'e', 'm'] := isAscii_of_all (by decide)

/-- The name of the linter, which a directive holds after `rem`. -/
theorem linterName : ("BSLINT_".toList.all fun c => decide (c.toNat < 0x80)) = true ∧
    (['r', 'e', 'm'] ++ lowered "BSLINT_".toList).all isPlainWord = true ∧
    "rembslint_".toList = ['r', 'e', 'm'] ++ lowered "BSLINT_".toList := by
  decide +kernel

theorem isAscii_linterName : IsAscii "BSLINT_".toList := isAscii_of_all linterName.1

theorem joinsDirective_iff {w : List Char} : joinsDirective w = true ↔
    ∃ c v, w = ['r', 'e', 'm'] ++ (lowered "BSLINT_".toList ++ c :: v) ∧ isPlainStart c = true := by
  rw [joinsDirective, Bool.and_eq_true, List.isPrefixOf_iff_prefix, linterName.2.2]
  constructor
  · rintro ⟨⟨v, rfl⟩, hstart⟩
    rw [List.drop_left] at hstart
    cases v with
    | nil => cases hstart
    | cons c v => exact ⟨c, v, List.append_assoc _ _ _, hstart⟩
  · rintro ⟨c, v, rfl, hstart⟩
    rw [← List.append_assoc, List.drop_left]
    exact ⟨List.prefix_append _ _, hstart⟩

theorem head_of_leadingWord (hw : leadingWord s ≠ []) :
    ∃ c r, s = c :: r ∧ isPlainWord c = true := by
  cases s with
  | nil => exact absurd rfl hw
  | cons c r =>
    cases hc : isPlainWord c with
    | true => exact ⟨c, r, rfl, hc⟩
    | false => exact absurd (List.takeWhile_cons_of_neg (by rw [hc]; decide)) hw

/-- The apostrophe of a comment does not start a word. -/
theorem head_ne_quote (hw : leadingWord s ≠ []) : s.head? ≠ some '\'' := by
  obtain ⟨c, r, rfl, hc⟩ := head_of_leadingWord hw
  intro hquote
  rw [Option.some.inj hquote] at hc
  revert hc
  decide

/-- The word `rem` is a comment, and no other word is. -/
theorem startsRemark_iff (hs : IsAscii s) (hw : leadingWord s ≠ []) :
    startsRemark s = true ↔ lowered (leadingWord s) = ['r', 'e', 'm'] := by
  have hmark : startsRemark s = startsWithWord ['r', 'e', 'm'] s :=
    startsRemark_of_ne (head_ne_quote hw)
  rw [hmark]
  exact ⟨fun h => (leadingWord_of_startsWithWord hs isAscii_rem h).2,
    startsWithWord_of_leadingWord hs isAscii_rem⟩

/-- A directive follows the word `rem`, or makes one word with it. -/
theorem leadingWord_of_readDirective? (hs : IsAscii s) (hw : leadingWord s ≠ [])
    (h : (readDirective? s).isSome = true) :
    lowered (leadingWord s) = ['r', 'e', 'm'] ∨
      joinsDirective (lowered (leadingWord s)) = true := by
  rw [isSome_readDirective?, afterMark?_of_ne (head_ne_quote hw), Option.any_eq_true] at h
  obtain ⟨m, hmark, hbody⟩ := h
  obtain ⟨body, hname, hstart⟩ := (Option.any_eq_true _ _).1 hbody
  obtain ⟨u, rfl, hu⟩ := afterFolded?_eq_some_iff.1 hmark
  rw [hs.append_left.map_fold, isAscii_rem.map_fold] at hu
  by_cases hspace : m.head? = some ' '
  · obtain ⟨m, rfl⟩ := List.head?_eq_some_iff.1 hspace
    left
    rw [hs.append_right.leadingWord_append rfl, ← leadingWord_lowered, hu]
    rfl
  · -- without a space the name of the linter goes on with the word
    right
    have hstay : m.dropWhile (· == ' ') = m := by
      cases m with
      | nil => rfl
      | cons c m =>
        exact List.dropWhile_cons_of_neg fun hc => hspace (congrArg some (beq_iff_eq.1 hc))
    rw [hstay] at hname
    obtain ⟨v, rfl, hv⟩ := afterFolded?_eq_some_iff.1 hname
    have hrest := hs.append_right
    rw [hrest.append_left.map_fold, isAscii_linterName.map_fold] at hv
    cases body with
    | nil => cases hstart
    | cons c body =>
      have hc : isPlainStart c.toLower = true := by
        rw [isPlainStart_toLower, ← (plain_of_ascii (hrest.append_right c List.mem_cons_self)).1]
        exact hstart
      have hlower : lowered (u ++ (v ++ c :: body)) =
          ['r', 'e', 'm'] ++ lowered "BSLINT_".toList ++ c.toLower :: lowered body := by
        unfold lowered at hu hv ⊢
        rw [List.map_append, List.map_append, List.append_assoc, hu, hv]
        rfl
      rw [← leadingWord_lowered, hlower, leadingWord,
        List.takeWhile_append_of_pos (List.all_eq_true.1 linterName.2.1),
        List.takeWhile_cons_of_pos (isPlainWord_of_isPlainStart hc)]
      exact joinsDirective_iff.2 ⟨c.toLower, _, List.append_assoc _ _ _, hc⟩

/-- What makes one word with `rem` is a directive. -/
theorem readDirective?_of_joins (hs : IsAscii s) (hw : leadingWord s ≠ [])
    (h : joinsDirective (lowered (leadingWord s)) = true) : (readDirective? s).isSome = true := by
  obtain ⟨c, v, hword, hc⟩ := joinsDirective_iff.1 h
  obtain ⟨u, w, huw, hu, hw'⟩ := List.map_eq_append_iff.1 hword
  obtain ⟨m, b, rfl, hm, hb⟩ := List.map_eq_append_iff.1 hw'
  obtain ⟨d, b, rfl, rfl, -⟩ := List.map_eq_cons_iff.1 hb
  have hsplit : s = u ++ (m ++ d :: (b ++ s.dropWhile isPlainWord)) :=
    calc s = leadingWord s ++ s.dropWhile isPlainWord := List.takeWhile_append_dropWhile.symm
      _ = u ++ (m ++ d :: (b ++ s.dropWhile isPlainWord)) := by
        rw [huw, List.append_assoc, List.append_assoc, List.cons_append]
  generalize s.dropWhile isPlainWord = r at hsplit
  subst hsplit
  have hrest := hs.append_right
  have hmark : afterFolded? ['r', 'e', 'm'] (u ++ (m ++ d :: (b ++ r))) =
      some (m ++ d :: (b ++ r)) :=
    afterFolded?_eq_some_iff.2 ⟨u, rfl, by rw [hs.append_left.map_fold]; exact hu⟩
  have hspace : (m ++ d :: (b ++ r)).dropWhile (· == ' ') = m ++ d :: (b ++ r) := by
    obtain ⟨e, m, rfl, he, -⟩ := List.map_eq_cons_iff.1 hm
    refine List.dropWhile_cons_of_neg fun hblank => ?_
    rw [beq_iff_eq.1 hblank] at he
    revert he
    decide
  have hname : afterFolded? "BSLINT_".toList (m ++ d :: (b ++ r)) = some (d :: (b ++ r)) :=
    afterFolded?_eq_some_iff.2 ⟨m, rfl, by
      rw [hrest.append_left.map_fold, isAscii_linterName.map_fold]
      exact hm⟩
  have hstart : isNameStart d = true := by
    rw [(plain_of_ascii (hrest.append_right d List.mem_cons_self)).1, ← isPlainStart_toLower]
    exact hc
  rw [isSome_readDirective?, afterMark?_of_ne (head_ne_quote hw), hmark, Option.any_some, hspace,
    hname]
  exact hstart

/-- **What is tried before names** covers the word at the head of a text, and is tried because the
word is reserved or makes a directive. -/
theorem Shape.read?_leadingWord {sh : Shape} (hsh : sh.sparesWords = true)
    (hfirst : ∀ w, sh = .word w → leadingWord (lowered w.toList) ∈ reservedWords) (hs : IsAscii s)
    (hw : leadingWord s ≠ []) (h : sh.read? s = some (t, q)) :
    leadingWord s <+: t ∧
      (lowered (leadingWord s) ∈ reservedWords ∨
        joinsDirective (lowered (leadingWord s)) = true) := by
  obtain ⟨c, r, hcons, hc⟩ := head_of_leadingWord hw
  have hrem : lowered (leadingWord s) = ['r', 'e', 'm'] →
      lowered (leadingWord s) ∈ reservedWords := fun h => h ▸ mem_reservedWords_rem
  cases sh with
  | lineFeed =>
    subst hcons
    simp only [read?] at h
    split at h
    · next hfeed =>
      rw [Option.some.inj hfeed] at hc
      exact absurd hc (by decide)
    · cases h
  | blank =>
    subst hcons
    simp only [read?] at h
    split at h
    · next hblank =>
      have hnot := (plain_of_ascii (hs c List.mem_cons_self)).2.2.2.2
      rw [hc, hblank] at hnot
      cases hnot
    · cases h
  | sign w =>
    simp only [read?] at h
    split at h
    · next hsign =>
      obtain ⟨v, hv⟩ := List.isPrefixOf_iff_prefix.1 hsign
      simp only [sparesWords] at hsh
      cases hw : w.toList with
      | nil => simp [hw] at hsh
      | cons d w =>
        rw [hw, hcons] at hv
        rw [hw, (List.cons_eq_cons.1 hv).1] at hsh
        simp [hc] at hsh
    · cases h
  | word w =>
    rw [read?_word] at h
    split at h
    · next hword =>
      cases h
      have hascii := isAscii_of_all (Bool.and_eq_true_iff.1 hsh).1
      obtain ⟨hcovers, hstarts⟩ := leadingWord_of_startsWithWord hs hascii hword
      exact ⟨hcovers, .inl (hstarts ▸ hfirst w rfl)⟩
    · cases h
  | directive =>
    obtain ⟨parts, hparts, heq⟩ := Option.map_eq_some_iff.1 h
    cases heq
    refine ⟨leadingWord_prefix_firstLine s, ?_⟩
    have hsome : (readDirective? s).isSome = true := by rw [hparts]; rfl
    exact (leadingWord_of_readDirective? hs hw hsome).imp_left hrem
  | remark =>
    simp only [read?] at h
    split at h
    · next hremark =>
      cases h
      exact ⟨leadingWord_prefix_firstLine s, .inl (hrem ((startsRemark_iff hs hw).1 hremark))⟩
    · cases h
  | ident => cases hsh
  | quoted => cases hsh
  | number => cases hsh

/-- The shape of a reserved word reads it. -/
theorem Shape.read?_of_reserved? {sh : Shape} (hsh : sh.sparesWords = true) (hs : IsAscii s)
    (hw : leadingWord s ≠ []) (h : sh.reserved? = some (lowered (leadingWord s))) :
    (sh.read? s).isSome = true := by
  cases sh with
  | word w =>
    simp only [reserved?] at h
    split at h
    · cases h
    · have hascii := isAscii_of_all (Bool.and_eq_true_iff.1 hsh).1
      rw [read?_word, if_pos (startsWithWord_of_leadingWord hs hascii (Option.some.inj h).symm)]
      rfl
  | remark =>
    simp only [read?, if_pos ((startsRemark_iff hs hw).2 (Option.some.inj h).symm)]
    rfl
  | _ => cases h

/-- **A reserved word** is read by a rule that is tried before names. -/
theorem exists_earlierRule (hs : IsAscii s) (hw : leadingWord s ≠ [])
    (h : lowered (leadingWord s) ∈ reservedWords ∨
      joinsDirective (lowered (leadingWord s)) = true) :
    ∃ rule ∈ earlierRules, (rule.shape.read? s).isSome = true := by
  rcases h with h | h
  · obtain ⟨rule, hmem, hrule⟩ := List.mem_filterMap.1 h
    rw [lexemeRules_split, List.mem_append] at hmem
    rcases hmem with hearly | hlate
    · have hspares := List.all_eq_true.1 earlierRules_spareWords rule hearly
      exact ⟨rule, hearly, Shape.read?_of_reserved? (Bool.and_eq_true_iff.1 hspares).1 hs hw hrule⟩
    · simp only [nameRules, List.mem_cons, List.not_mem_nil, or_false] at hlate
      rcases hlate with rfl | rfl | rfl <;> cases hrule
  · refine ⟨⟨.directive, .directive, .directive, 0⟩,
      List.mem_append_right _ List.mem_cons_self, ?_⟩
    simp only [Shape.read?, Option.isSome_map]
    exact readDirective?_of_joins hs hw h

end Reserved

/-! ### Names -/

/-- The sign of a type at the head of a text, if there is one. -/
def typeSign (s : List Char) : List Char :=
  (s.head?.filter fun c => ['$', '%', '!', '#', '&'].contains c).toList

section Names

variable {s : List Char}

theorem filter_isTypeSign (s : List Char) : (s.take 1).filter isTypeSign = typeSign s := by
  cases s with
  | nil => rfl
  | cons c s =>
    have hsign : isTypeSign c = ['$', '%', '!', '#', '&'].contains c := by
      rw [Bool.eq_iff_iff]
      simp [isTypeSign, or_assoc]
    simp only [typeSign, List.head?_cons, Option.filter_some, ← hsign, List.take_succ_cons,
      List.take_zero, List.filter_cons, List.filter_nil]
    split <;> rfl

theorem takeWhile_isNameChar (hs : IsAscii s) : s.takeWhile isNameChar = leadingWord s := by
  induction s with
  | nil => rfl
  | cons c s ih =>
    have hc := (plain_of_ascii (hs c List.mem_cons_self)).2.1
    rw [leadingWord, List.takeWhile_cons, List.takeWhile_cons, hc,
      ih fun d hd => hs d (List.mem_cons_of_mem _ hd)]
    rfl

theorem dropWhile_isNameChar (hs : IsAscii s) :
    s.dropWhile isNameChar = s.drop (leadingWord s).length := by
  have hdrop : (s.takeWhile isNameChar ++ s.dropWhile isNameChar).drop
      (s.takeWhile isNameChar).length = s.dropWhile isNameChar := List.drop_left
  rw [List.takeWhile_append_dropWhile, takeWhile_isNameChar hs] at hdrop
  exact hdrop.symm

/-- The name at the head of a text is its first word, with the sign of a type after it. -/
theorem readIdent?_of_ascii {c : Char} (hs : IsAscii (c :: s)) (hc : isPlainStart c = true) :
    readIdent? (c :: s) =
      some (leadingWord (c :: s) ++ typeSign ((c :: s).drop (leadingWord (c :: s)).length),
        .ident (String.ofList (leadingWord (c :: s)))
          (String.ofList (typeSign ((c :: s).drop (leadingWord (c :: s)).length)))) := by
  have hstart : isNameStart c = true := by
    rw [(plain_of_ascii (hs c List.mem_cons_self)).1, hc]
  rw [readIdent?_cons, if_pos hstart, filter_isTypeSign, takeWhile_isNameChar hs,
    dropWhile_isNameChar hs]

end Names

namespace Lexeme

/-- **Words are whole.** In a text of ASCII characters that starts with a letter or an underscore, a
lexeme is found, and it covers the word at the head of the text. It is a name if and only if the
word, in lower case, neither is reserved nor makes a directive; the name is that word then, and its
type the sign after it, if there is one. -/
theorem first?_leadingWord (c : Char) (s : List Char) (hs : IsAscii (c :: s))
    (hc : isPlainStart c = true) :
    ∃ x, first? (c :: s) = some x ∧ leadingWord (c :: s) <+: x.text ∧
      (x.kind = .ident ↔ lowered (leadingWord (c :: s)) ∉ reservedWords ∧
        joinsDirective (lowered (leadingWord (c :: s))) = false) ∧
      (x.kind = .ident →
        x.parts = .ident (String.ofList (leadingWord (c :: s)))
          (String.ofList (typeSign ((c :: s).drop (leadingWord (c :: s)).length)))) := by
  have hw : leadingWord (c :: s) ≠ [] := by
    rw [leadingWord, List.takeWhile_cons_of_pos (isPlainWord_of_isPlainStart hc)]
    exact List.cons_ne_nil _ _
  rw [first?, lexemeRules_split, List.findSome?_append]
  cases hearly : earlierRules.findSome? (·.read? (c :: s)) with
  | some x =>
    obtain ⟨rule, hrule, hx⟩ := List.exists_of_findSome?_eq_some hearly
    obtain ⟨⟨t, q⟩, hread, rfl⟩ := Option.map_eq_some_iff.1 hx
    obtain ⟨hspares, hkind⟩ :=
      Bool.and_eq_true_iff.1 (List.all_eq_true.1 earlierRules_spareWords rule hrule)
    have hfirst := fun w hshape => mem_reservedWords_leadingWord (t := w) hrule hshape hspares
    obtain ⟨hcovers, hreason⟩ := Shape.read?_leadingWord hspares hfirst hs hw hread
    have hnot : rule.kind ≠ .ident := bne_iff_ne.1 hkind
    refine ⟨_, rfl, hcovers, ⟨fun hident => absurd hident hnot, ?_⟩,
      fun hident => absurd hident hnot⟩
    rintro ⟨hfree, hapart⟩
    rcases hreason with hmem | hjoins
    · exact absurd hmem hfree
    · rw [hapart] at hjoins
      cases hjoins
  | none =>
    have hfree : ¬ (lowered (leadingWord (c :: s)) ∈ reservedWords ∨
        joinsDirective (lowered (leadingWord (c :: s))) = true) := by
      intro hreason
      obtain ⟨rule, hrule, hsome⟩ := exists_earlierRule hs hw hreason
      have hnone := List.findSome?_eq_none_iff.1 hearly rule hrule
      rw [Rule.read?, Option.map_eq_none_iff] at hnone
      rw [hnone] at hsome
      cases hsome
    have hread : Rule.read? ⟨.ident, .ident, .ident, 0⟩ (c :: s) = some
        ⟨leadingWord (c :: s) ++ typeSign ((c :: s).drop (leadingWord (c :: s)).length),
          .ident (String.ofList (leadingWord (c :: s)))
            (String.ofList (typeSign ((c :: s).drop (leadingWord (c :: s)).length))),
          .ident, .ident, 0⟩ :=
      congrArg (Option.map _) (readIdent?_of_ascii hs hc)
    rw [not_or, Bool.not_eq_true] at hfree
    rw [Option.none_or, nameRules, List.findSome?_cons, hread]
    exact ⟨_, rfl, List.prefix_append _ _, ⟨fun _ => hfree, fun _ => rfl⟩, fun _ => rfl⟩

/-- A name may start with two reserved words. A reserved word may be in both cases, and is one also
where no phrase follows from it. -/
theorem first?_leadingWord_endIf :
    (∃ x, first? "endIfs%=1".toList = some x ∧ "endIfs".toList <+: x.text ∧ x.kind = .ident ∧
      x.parts = .ident "endIfs" "%") ∧
    ∃ x, first? "eNd\tif".toList = some x ∧ "eNd".toList <+: x.text ∧ x.kind ≠ .ident := by
  have heval : ("endIfs%=1".toList.all fun c => decide (c.toNat < 0x80)) = true ∧
      ("eNd\tif".toList.all fun c => decide (c.toNat < 0x80)) = true ∧
      leadingWord "endIfs%=1".toList = "endIfs".toList ∧
      leadingWord "eNd\tif".toList = "eNd".toList ∧
      lowered (leadingWord "eNd\tif".toList) ∈ reservedWords ∧
      lowered (leadingWord "endIfs%=1".toList) ∉ reservedWords ∧
      joinsDirective (lowered (leadingWord "endIfs%=1".toList)) = false := by
    decide +kernel
  obtain ⟨hascii, hascii', hword, hword', hmem, hfree⟩ := heval
  obtain ⟨x, hx, hcovers, hkind, hparts⟩ :=
    first?_leadingWord 'e' "ndIfs%=1".toList (isAscii_of_all hascii) rfl
  obtain ⟨y, hy, hcovers', hkind', -⟩ :=
    first?_leadingWord 'e' "Nd\tif".toList (isAscii_of_all hascii') rfl
  exact ⟨⟨x, hx, hword ▸ hcovers, hkind.2 hfree, hparts (hkind.2 hfree)⟩,
    y, hy, hword' ▸ hcovers', fun hident => (hkind'.1 hident).1 hmem⟩

end Lexeme

end BrightLint
