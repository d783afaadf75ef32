import BrightLint.Check.Comment
import BrightLint.Proofs.RegexMatches
import BrightLint.Proofs.ScanBreaks
import BrightLint.Settings.Standard

/-!
The marks of comments: an apostrophe or the word `rem`, in any case. To the scanner they are all
one, but the check of comments tells them apart. It looks for notes of work to be done behind an
apostrophe and behind `REM` only, and the standard format of a note knows an apostrophe and `rem`
only.

* `Lexeme.marked`, `Lexeme.first?_mark`: a line that starts with a mark is one lexeme, of the same
  kind for all marks
* `Check.ofText?_todoFormat`, `Check.noteFormat_fits`: the standard format, and what fits it
* `Check.fits_todoPattern`: the comments in which a note is seen
* `Check.findComment_mark`: what the check says of a comment, by its mark and its body
* `Check.findComment_marks`: **when the check says the same of all marks**
-/

namespace BrightLint

variable {mark b : List Char}

/-! ### Parts of texts -/

theorem Text.occursIn_iff {part s : List Char} :
    Text.occursIn part s = true ↔ ∃ k, part <+: s.drop k := by
  induction s with
  | nil => simp [Text.occursIn]
  | cons c s ih =>
    rw [Text.occursIn, Bool.or_eq_true, ih, List.isPrefixOf_iff_prefix]
    constructor
    · rintro (hhead | ⟨k, hk⟩)
      · exact ⟨0, hhead⟩
      · exact ⟨k + 1, hk⟩
    · rintro ⟨k, hk⟩
      cases k with
      | zero => exact .inl hk
      | succ k => exact .inr ⟨k, hk⟩

/-! ### Lexemes -/

theorem map_fold_mark (h : afterMark? mark = some []) (hquote : mark.head? ≠ some '\'') :
    mark.map Text.fold = ['r', 'e', 'm'].map Text.fold := by
  rw [afterMark?_of_ne hquote] at h
  obtain ⟨u, rfl, hu⟩ := afterFolded?_eq_some_iff.1 h
  rwa [List.append_nil]

theorem afterMark?_append (h : afterMark? mark = some []) (b : List Char) :
    afterMark? (mark ++ b) = some b := by
  rcases mark_cases h with rfl | ⟨c, d, e, rfl, hc, -⟩
  · rfl
  · have hquote : [c, d, e].head? ≠ some '\'' := by rcases hc with rfl | rfl <;> simp
    calc afterMark? ([c, d, e] ++ b)
      _ = afterFolded? ['r', 'e', 'm'] ([c, d, e] ++ b) := afterMark?_of_ne hquote
      _ = some b := afterFolded?_eq_some_iff.2 ⟨_, rfl, map_fold_mark h hquote⟩

/-- A text has one mark at most. -/
theorem mark_append_inj {mark' b' : List Char} (h : afterMark? mark = some [])
    (h' : afterMark? mark' = some []) (heq : mark ++ b = mark' ++ b') : mark = mark' ∧ b = b' := by
  have hafter := afterMark?_append h b
  rw [heq, afterMark?_append h'] at hafter
  cases hafter
  exact ⟨List.append_cancel_right heq, rfl⟩

/-- Marks make no difference to directives. -/
theorem readDirective?_mark (h : afterMark? mark = some []) (b : List Char) :
    readDirective? (mark ++ b) = readDirective? ('\'' :: b) := by
  have hquote : afterMark? ('\'' :: b) = some b := rfl
  rw [readDirective?, readDirective?, afterMark?_append h, hquote]

theorem startsRemark_mark (h : afterMark? mark = some []) (hspace : b.head? = some ' ') :
    startsRemark (mark ++ b) = true := by
  by_cases hquote : (mark ++ b).head? = some '\''
  · obtain ⟨t, ht⟩ := List.head?_eq_some_iff.1 hquote
    rw [ht]
    rfl
  · have hafter := afterMark?_append h b
    rw [afterMark?_of_ne hquote] at hafter
    obtain ⟨t, rfl⟩ := List.head?_eq_some_iff.1 hspace
    rw [startsRemark_of_ne hquote, hafter]
    rfl

theorem firstLine_mark (h : afterMark? mark = some []) (hline : '\n' ∉ b) :
    Text.firstLine (mark ++ b) = mark ++ b := by
  have hmark : '\n' ∉ mark := by
    rcases mark_cases h with rfl | ⟨c, d, e, rfl, hc, hd, he⟩
    · simp
    · rcases hc with rfl | rfl <;> rcases hd with rfl | rfl <;> rcases he with rfl | rfl <;> simp
  exact Text.firstLine_inline fun hmem => (List.mem_append.1 hmem).elim hmark hline

/-- The lexeme that a mark and a body make: a directive if the body is that of one, and a comment if
not. -/
def Lexeme.marked (mark b : List Char) : Lexeme :=
  match readDirective? ('\'' :: b) with
  | some parts => ⟨mark ++ b, parts, .directive, .directive, 0⟩
  | none => ⟨mark ++ b, .plain, .comment, .comment, 0⟩

/-- **A line that starts with a mark and a space** is one lexeme, and all marks make the same kind
of it. -/
theorem Lexeme.first?_mark (h : afterMark? mark = some []) (hspace : b.head? = some ' ')
    (hline : '\n' ∉ b) : first? (mark ++ b) = some (marked mark b) := by
  have hfirst := firstLine_mark h hline
  rw [marked]
  cases hdirective : readDirective? ('\'' :: b) with
  | none =>
    rw [first?_remark h (startsRemark_mark h hspace) ((readDirective?_mark h b).trans hdirective),
      hfirst]
  | some parts =>
    rw [first?_eq, findSome?_mark h b, Option.none_or, Rule.read?]
    simp [Shape.read?, readDirective?_mark h, hdirective, hfirst]

/-! ### The standard format -/

namespace Check

open Regex (IsWp Mode spelled)

/-- Whether a character can be one of the initials of a person. -/
def isInitial (c : Char) : Bool := 65 ≤ c.toNat && c.toNat ≤ 90

/-- What the standard format asks for behind the mark. -/
def bodyFormat : Regex :=
  .seq (.times .long 0 none (.one ({} : Mode).isBlank))
    (spelled "TODO".toList
      (.seq (.times .long 1 none (.one ({} : Mode).isBlank))
        (.seq (.seq (.times .long 2 (some 3) (.one isInitial)) .empty) .empty)))

/-- The standard format, read. -/
def noteFormat : Regex :=
  .seq (.either (spelled "'".toList .empty) (spelled "rem".toList .empty)) bodyFormat

theorem signs_todoFormat : Regex.signs (Text.points Settings.todoFormat) =
    [.plain '(', .plain '\'', .plain '|', .plain 'r', .plain 'e', .plain 'm', .plain ')',
      .escaped 's', .plain '*', .plain 'T', .plain 'O', .plain 'D', .plain 'O', .escaped 's',
      .plain '+', .plain '(', .plain '[', .plain 'A', .plain '-', .plain 'Z', .plain ']',
      .plain '\x7b', .plain '2', .plain ',', .plain '3', .plain '\x7d', .plain ')'] := rfl

theorem ofText?_todoFormat : Regex.ofText? {} Settings.todoFormat = .ok noteFormat := by
  -- the ranges of a set are read one after the other, each added to those before
  have hinitial : isInitial = fun c => (fun c => ({} : Mode).inRange 65 90 c ||
      Option.any (fun (before : Char → Bool) => before c) none) c != false := by
    funext c
    simp [isInitial, Mode.inRange]
  rw [noteFormat, bodyFormat, hinitial, Regex.ofText?, Regex.ofPoints?, signs_todoFormat]
  rfl

/-- Whether the body of a comment has the standard format: the word, white space and two capital
letters at least. -/
def isNote (b : List Char) : Bool :=
  let word := b.dropWhile Text.isBlank
  let name := word.drop 4
  "TODO".toList.isPrefixOf word && name.head?.any Text.isBlank &&
    2 ≤ ((name.dropWhile Text.isBlank).takeWhile isInitial).length

theorem isInitial_of_isBlank {c : Char} (h : Text.isBlank c = true) : isInitial c = false := by
  simp only [Text.isBlank, Bool.or_eq_true, Bool.and_eq_true, decide_eq_true_eq, beq_iff_eq] at h
  simp only [isInitial, Bool.and_eq_false_iff, decide_eq_false_iff_not]
  omega

/-- White space is passed over so that the rest has a property: all of it is, if nothing that has
the property starts with white space. -/
theorem exists_drop_iff (P : List Char → Prop) (hP : ∀ c v, Text.isBlank c = true → ¬ P (c :: v))
    (least : Nat) (u : List Char) :
    (∃ k ≤ (u.takeWhile Text.isBlank).length, least ≤ k ∧ P (u.drop k)) ↔
      least ≤ (u.takeWhile Text.isBlank).length ∧ P (u.dropWhile Text.isBlank) := by
  induction u generalizing least with
  | nil => simp
  | cons c u ih =>
    by_cases hc : Text.isBlank c = true
    · rw [List.takeWhile_cons_of_pos hc, List.dropWhile_cons_of_pos hc, List.length_cons,
        ← Nat.sub_le_iff_le_add, ← ih (least - 1)]
      constructor
      · rintro ⟨k, hk, hleast, hrest⟩
        cases k with
        | zero => exact absurd hrest (hP c u hc)
        | succ k => exact ⟨k, Nat.le_of_succ_le_succ hk, Nat.sub_le_of_le_add hleast, hrest⟩
      · rintro ⟨k, hk, hleast, hrest⟩
        exact ⟨k + 1, Nat.succ_le_succ hk, Nat.le_add_of_sub_le hleast, hrest⟩
    · simp [hc]

theorem isNote_iff (b : List Char) : isNote b = true ↔
    ∃ v, b.dropWhile Text.isBlank = "TODO".toList ++ v ∧ 1 ≤ (v.takeWhile Text.isBlank).length ∧
      2 ≤ ((v.dropWhile Text.isBlank).takeWhile isInitial).length := by
  have hhead (v : List Char) : v.head?.any Text.isBlank = true ↔
      1 ≤ (v.takeWhile Text.isBlank).length := by
    cases v with
    | nil => simp
    | cons c v => by_cases hc : Text.isBlank c = true <;> simp [hc]
  simp only [isNote, Bool.and_eq_true, decide_eq_true_eq, hhead, List.isPrefixOf_iff_prefix,
    and_assoc]
  constructor
  · rintro ⟨⟨v, hv⟩, hname⟩
    rw [← hv] at hname
    exact ⟨v, hv.symm, hname⟩
  · rintro ⟨v, hv, hname⟩
    rw [hv]
    exact ⟨⟨v, rfl⟩, hname⟩

theorem bodyFormat_wp : ∃ T, IsWp bodyFormat T ∧ ∀ b, T (fun _ => True) b ↔ isNote b = true := by
  have hwp : IsWp bodyFormat _ := .seq (.times_one (by simp)) (.spelled "TODO".toList
    (.seq (.times_one (by simp)) (.seq (.seq (.times_one (by simp)) .empty) .empty)))
  refine ⟨_, hwp, fun b => ?_⟩
  -- three capital letters are two of them and one more
  have hname (v : List Char) : (∃ k ≤ (v.takeWhile isInitial).length, 2 ≤ k ∧
      (∀ m ∈ some 3, k ≤ m) ∧ True) ↔ 2 ≤ (v.takeWhile isInitial).length := by
    constructor
    · rintro ⟨k, hk, htwo, -⟩
      exact Nat.le_trans htwo hk
    · intro htwo
      exact ⟨2, htwo, Nat.le_refl 2, by simp⟩
  -- neither a capital letter nor the word is white space
  have hgap := exists_drop_iff (fun t => 2 ≤ (t.takeWhile isInitial).length) fun c t hc => by
    simp [isInitial_of_isBlank hc]
  have hword (P : List Char → Prop) := exists_drop_iff (fun t => ∃ w, t = "TODO".toList ++ w ∧ P w)
    (by
      rintro c v hc ⟨w, hw, -⟩
      cases (List.cons.inj hw).1
      exact absurd hc (by decide))
  have hblank : ({} : Mode).isBlank = Text.isBlank := rfl
  simp only [hblank, hname, Option.not_mem_none, false_implies, implies_true, true_and, hgap]
  rw [isNote_iff]
  exact (hword _ 0 b).trans (and_iff_right (Nat.zero_le _))

/-- **What fits the standard format**: an apostrophe or `rem`, and a note. -/
theorem noteFormat_fits (s : List Char) : noteFormat.fits s = true ↔
    ∃ b, (s = "'".toList ++ b ∨ s = "rem".toList ++ b) ∧ isNote b = true := by
  obtain ⟨T, hwp, hbody⟩ := bodyFormat_wp
  have hmarks := (IsWp.spelled "'".toList .empty).either (.spelled "rem".toList .empty)
  rw [noteFormat, (hmarks.seq hwp).fits]
  simp only [hbody, ← exists_or, or_and_right]

theorem noteFormat_fits_mark (h : afterMark? mark = some []) (b : List Char) :
    noteFormat.fits (mark ++ b) =
      ((mark == "'".toList || mark == "rem".toList) && isNote b) := by
  have hquote : afterMark? "'".toList = some [] := rfl
  have hrem : afterMark? "rem".toList = some [] := rfl
  rw [Bool.eq_iff_iff, noteFormat_fits]
  simp only [Bool.and_eq_true, Bool.or_eq_true, beq_iff_eq]
  constructor
  · rintro ⟨b', hmark | hmark, hnote⟩
    · obtain ⟨rfl, rfl⟩ := mark_append_inj h hquote hmark
      exact ⟨.inl rfl, hnote⟩
    · obtain ⟨rfl, rfl⟩ := mark_append_inj h hrem hmark
      exact ⟨.inr rfl, hnote⟩
  · rintro ⟨hmark, hnote⟩
    exact ⟨b, hmark.imp (congrArg (· ++ b)) (congrArg (· ++ b)), hnote⟩

/-! ### Notes in comments -/

section Notes

variable {f : Char → Char} {same : List Char → Pattern}
  (hsame : ∀ (s w : List Char) (i j : Nat), j ∈ (same w).ends s.toArray i ↔
    j = i + w.length ∧ w.map f <+: (s.drop i).map f)

include hsame

theorem mem_ends_mark (hf : f 'R' ≠ f '\'') (h : afterMark? mark = some [])
    (hspace : b.head? = some ' ') (k : Nat) :
    k ∈ (Pattern.either (.char '\'') (.seq (same "REM".toList) .edge)).ends (mark ++ b).toArray 0 ↔
      k = mark.length ∧ (mark = ['\''] ∨ mark.map f = "REM".toList.map f) := by
  obtain ⟨t, rfl⟩ := List.head?_eq_some_iff.1 hspace
  simp only [Pattern.mem_ends_either, Pattern.mem_ends_seq, Pattern.mem_ends_edge, hsame,
    Pattern.char, Pattern.mem_ends_one]
  rcases mark_cases h with rfl | ⟨c, d, e, rfl, hc, hd, he⟩
  · constructor
    · rintro (⟨rfl, -⟩ | ⟨j, ⟨-, hbegins⟩, -⟩)
      · exact ⟨rfl, .inl rfl⟩
      · exact absurd (List.cons_prefix_cons.1 hbegins).1 hf
    · rintro ⟨rfl, -⟩
      exact .inl ⟨rfl, rfl⟩
  · have hne : c ≠ '\'' := by rcases hc with rfl | rfl <;> decide
    have hedge : Pattern.isWordEdge ([c, d, e] ++ ' ' :: t).toArray 3 = true := by
      have hword : Text.isWordChar e = true := by rcases he with rfl | rfl <;> rfl
      have hblank : Text.isWordChar ' ' = false := rfl
      simp [Pattern.isWordEdge, Pattern.isWordAt, hword, hblank]
    have hspelled : "REM".toList.map f <+: ([c, d, e] ++ ' ' :: t).map f ↔
        [c, d, e].map f = "REM".toList.map f := by
      rw [List.prefix_iff_eq_take]
      exact eq_comm
    constructor
    · rintro (⟨-, hquote⟩ | ⟨j, ⟨rfl, hj⟩, rfl, -⟩)
      · exact absurd (beq_iff_eq.1 hquote) hne
      · exact ⟨rfl, .inr (hspelled.1 hj)⟩
    · rintro ⟨rfl, hmark | hmark⟩
      · cases hmark
      · exact .inr ⟨3, ⟨rfl, hspelled.2 hmark⟩, rfl, hedge⟩

/-- Behind the mark a note is seen if its word stands anywhere. -/
theorem exists_mem_ends_note {s : List Char} {i : Nat} (hb : s.drop i = b) (hline : '\n' ∉ b) :
    (∃ j, j ∈ (Pattern.chain [.many (.char ' '), .many .inLine, same "TODO".toList]).ends
        s.toArray i) ↔
      Text.occursIn ("TODO".toList.map f) (b.map f) = true := by
  simp only [Pattern.chain, Pattern.mem_ends_seq, Pattern.char, Pattern.inLine,
    Pattern.mem_ends_many, hsame, Text.occursIn_iff]
  constructor
  · rintro ⟨_, _, ⟨m, rfl, -⟩, _, ⟨n, rfl, -⟩, -, hword⟩
    refine ⟨m + n, ?_⟩
    rwa [Nat.add_assoc, ← List.drop_drop, hb, List.map_drop] at hword
  · rintro ⟨k, hk⟩
    have hword : "TODO".toList.length = 4 := rfl
    have hlen := hk.length_le
    simp only [List.length_map, List.length_drop, hword] at hlen
    have hall : Pattern.AllFrom s.toArray (· != '\n') i k := by
      have hfirst : b.takeWhile (· != '\n') = b := Text.firstLine_inline hline
      rw [Pattern.allFrom_iff_takeWhile, hb, hfirst]
      omega
    refine ⟨_, _, ⟨0, rfl, Pattern.allFrom_zero _ _ _⟩, _, ⟨k, rfl, hall⟩, rfl, ?_⟩
    rwa [Nat.add_zero, ← List.drop_drop, hb, List.map_drop]

/-- **The comments in which a note is seen**: those with an apostrophe or the word `REM`, if the
word for a note stands in their body. -/
theorem fits_todoPattern (hf : f 'R' ≠ f '\'') (h : afterMark? mark = some [])
    (hspace : b.head? = some ' ') (hline : '\n' ∉ b) :
    (todoPattern same).fits (mark ++ b) =
      ((mark == ['\''] || mark.map f == "REM".toList.map f) &&
        Text.occursIn ("TODO".toList.map f) (b.map f)) := by
  have hchain : todoPattern same = .seq (.either (.char '\'') (.seq (same "REM".toList) .edge))
      (.chain [.many (.char ' '), .many .inLine, same "TODO".toList]) := rfl
  have hbody : (mark ++ b).drop mark.length = b := List.drop_left
  rw [Bool.eq_iff_iff, Pattern.fits_iff, hchain, Bool.and_eq_true, Bool.or_eq_true, beq_iff_eq,
    beq_iff_eq, ← exists_mem_ends_note hsame hbody hline]
  simp only [Pattern.mem_ends_seq, mem_ends_mark hsame hf h hspace]
  constructor
  · rintro ⟨j, k, ⟨rfl, hmark⟩, hj⟩
    exact ⟨hmark, j, hj⟩
  · rintro ⟨hmark, j, hj⟩
    exact ⟨j, _, ⟨rfl, hmark⟩, hj⟩

end Notes

/-! ### The check -/

/-- What is said of a comment, by the settings and by what the check has seen in it: a note of work
to be done, the standard format, and the word for a note in any case. -/
def commentVerdict (todos generic hasNote isFormatted hasWord : Bool) : Verdict :=
  match todos, generic with
  | true, true => if hasNote && !isFormatted then complain .todoFormat else .ok none
  | true, false => if isFormatted then .ok none else complain .todoOnlyFormat
  | false, true => if hasWord then complain .noTodos else .ok none
  | false, false => complain .noComments

variable {s : Settings} {todos generic : Bool}

theorem findComment_eq {format : Json} {test : List Char → Bool}
    (hactive : s.isActive .comment = .ok true)
    (hrules : commentRules s = .ok (todos, generic, format))
    (hformat : formatTest format = .ok test) (text : List Char) :
    findComment s text = commentVerdict todos generic ((todoPattern .literal).fits text) (test text)
      ((todoPattern .literalFolded).fits text) := by
  unfold findComment whenActive
  rw [hactive, hrules]
  cases todos <;> cases generic <;> simp only [bind, Except.bind, hformat, commentVerdict]
  · rfl
  · rfl
  · rfl
  · cases (todoPattern .literal).fits text <;> cases test text <;> rfl

/-- **What the check says of a comment**, by its mark and its body. -/
theorem findComment_mark (hactive : s.isActive .comment = .ok true)
    (hrules : commentRules s = .ok (todos, generic, .str Settings.todoFormat))
    (h : afterMark? mark = some []) (hspace : b.head? = some ' ') (hline : '\n' ∉ b) :
    findComment s (mark ++ b) = commentVerdict todos generic
      ((mark == "'".toList || mark == "REM".toList) && Text.occursIn "TODO".toList b)
      ((mark == "'".toList || mark == "rem".toList) && isNote b)
      (Text.occursIn ("TODO".toList.map Text.fold) (b.map Text.fold)) := by
  have hformat : formatTest (.str Settings.todoFormat) = .ok noteFormat.fits := by
    rw [formatTest, ofText?_todoFormat]
    rfl
  have hliteral : (todoPattern .literal).fits (mark ++ b) =
      ((mark == "'".toList || mark == "REM".toList) && Text.occursIn "TODO".toList b) := by
    have hsame : ∀ (s w : List Char) (i j : Nat), j ∈ (Pattern.literal w).ends s.toArray i ↔
        j = i + w.length ∧ w.map id <+: (s.drop i).map id := by
      intro s w i j
      rw [List.map_id, List.map_id]
      exact Pattern.mem_ends_literal
    rw [fits_todoPattern hsame (by decide) h hspace hline, List.map_id, List.map_id, List.map_id,
      List.map_id]
    rfl
  have hfolded : (todoPattern .literalFolded).fits (mark ++ b) =
      Text.occursIn ("TODO".toList.map Text.fold) (b.map Text.fold) := by
    have hmark : (mark == ['\''] || mark.map Text.fold == "REM".toList.map Text.fold) = true := by
      rcases mark_cases h with rfl | ⟨c, d, e, rfl, hc, -⟩
      · rfl
      · rw [map_fold_mark h (by rcases hc with rfl | rfl <;> simp), Bool.or_eq_true, beq_iff_eq]
        exact .inr rfl
    rw [fits_todoPattern (fun _ _ _ _ => Pattern.mem_ends_literalFolded) (by decide) h hspace
      hline, hmark, Bool.true_and]
  rw [findComment_eq hactive hrules hformat, hliteral, hfolded, noteFormat_fits_mark h]

/-- **Where marks make a difference.** To the scanner the marks are all one: a body that starts with
a space makes the same kind of lexeme behind each of them. The check sees no note behind `rem`, and
behind `REM` no note has the standard format. So where notes are allowed, it says the same of the
three marks only if the body lacks the word for a note, or, where other comments are not allowed, if
the body lacks the format. Where notes are not allowed, it always does. -/
theorem findComment_marks (hactive : s.isActive .comment = .ok true)
    (hrules : commentRules s = .ok (todos, generic, .str Settings.todoFormat))
    (hspace : b.head? = some ' ') (hline : '\n' ∉ b) :
    (∀ mark ∈ ["'".toList, "rem".toList, "REM".toList],
      Lexeme.first? (mark ++ b) = some (Lexeme.marked mark b)) ∧
    (let hasNote := Text.occursIn "TODO".toList b
     let hasWord := Text.occursIn ("TODO".toList.map Text.fold) (b.map Text.fold)
     findComment s ("'".toList ++ b) = commentVerdict todos generic hasNote (isNote b) hasWord ∧
     findComment s ("rem".toList ++ b) = commentVerdict todos generic false (isNote b) hasWord ∧
     findComment s ("REM".toList ++ b) = commentVerdict todos generic hasNote false hasWord ∧
     (findComment s ("rem".toList ++ b) = findComment s ("'".toList ++ b) ∧
        findComment s ("REM".toList ++ b) = findComment s ("'".toList ++ b) ↔
      ¬ (todos = true ∧ (if generic then hasNote else isNote b) = true))) := by
  have hmarks : ∀ mark ∈ ["'".toList, "rem".toList, "REM".toList], afterMark? mark = some [] := by
    intro mark hmark
    simp only [List.mem_cons, List.not_mem_nil, or_false] at hmark
    rcases hmark with rfl | rfl | rfl <;> rfl
  have hquote := findComment_mark hactive hrules (hmarks "'".toList (by simp)) hspace hline
  have hrem := findComment_mark hactive hrules (hmarks "rem".toList (by simp)) hspace hline
  have hREM := findComment_mark hactive hrules (hmarks "REM".toList (by simp)) hspace hline
  refine ⟨fun mark hmark => Lexeme.first?_mark (hmarks mark hmark) hspace hline, hquote, hrem, hREM,
    ?_⟩
  rw [hquote, hrem, hREM]
  cases todos <;> cases generic <;> cases Text.occursIn "TODO".toList b <;> cases isNote b <;>
    simp [commentVerdict, complain]

/-- A note with initials is in order behind an apostrophe and behind `rem`, but not behind `REM`. -/
theorem findComment_marks_initials :
    findComment Settings.standard ("'".toList ++ " TODO AB tidy up".toList) = .ok none ∧
      findComment Settings.standard ("rem".toList ++ " TODO AB tidy up".toList) = .ok none ∧
      findComment Settings.standard ("REM".toList ++ " TODO AB tidy up".toList) =
        complain .todoFormat := by
  obtain ⟨-, hquote, hrem, hREM, -⟩ := findComment_marks (s := Settings.standard)
    (b := " TODO AB tidy up".toList) rfl rfl rfl (by decide)
  exact ⟨hquote, hrem, hREM⟩

/-- A note without initials is complained of behind an apostrophe, but not behind `rem`. -/
theorem findComment_lowerRem :
    findComment Settings.standard "' TODO tidy up".toList = complain .todoFormat ∧
      findComment Settings.standard "rem TODO tidy up".toList = .ok none := by
  have hrules : commentRules Settings.standard = .ok (true, true, .str Settings.todoFormat) := rfl
  have hquote : findComment Settings.standard ("'".toList ++ " TODO tidy up".toList) = _ :=
    findComment_mark rfl hrules rfl rfl (by decide)
  have hrem : findComment Settings.standard ("rem".toList ++ " TODO tidy up".toList) = _ :=
    findComment_mark rfl hrules rfl rfl (by decide)
  exact ⟨hquote, hrem⟩

end Check

end BrightLint
