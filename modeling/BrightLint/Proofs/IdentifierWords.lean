import Mathlib.Data.List.Chain
import Mathlib.Data.List.Induction
import BrightLint.Check.Spelling
import BrightLint.Settings.Standard

/-!
The words of an identifier. They are made up of its letters with a case, in order. A capital always
begins a word; a small letter does so only where no word has been begun, that is where no letter
with a case has come yet or none since the latest character that is not a letter. The dictionary is
asked about these words one after the other until it rejects one.

* `Text.isUpper_of_isLower`: no character is both a small letter and a capital
* `Check.Wording`, `Check.Wording.Reads`: how far an identifier has been read, and what holds then
* `Check.Wording.Reads.next`, `Check.Wording.reads_wording`: a character keeps it, and so does a
  text
* `Check.beginsWord_iff`: where words begin
* `Check.findSpelling_identifier`: the words, and which of them are asked about
-/

namespace BrightLint

/-! ### Small letters and capitals -/

namespace Text

namespace Ranges

/-- Whether two runs of code points have none in common because one ends before the other starts, or
because they alternate. -/
def runsApart : Nat × Nat × Nat → Nat × Nat × Nat → Bool
  | (first, last, step), (first', last', step') =>
    last < first' || last' < first ||
      ((step == 2 || first == last) && (step' == 2 || first' == last') && first % 2 != first' % 2)

/-- Whether two ordered lists of runs have nothing in common. The runs of the second list that end
before a run of the first are not looked at again. -/
def areApart : Ranges → Ranges → Bool
  | [], _ => true
  | r :: rs, rs' =>
    (rs'.takeWhile (·.1 ≤ r.2.1)).all (runsApart r) && areApart rs (rs'.dropWhile (·.2.1 < r.1))

def IsOrdered (rs : Ranges) : Prop := rs.Pairwise (·.1 ≤ ·.1)

theorem isOrdered_of_isChain {rs : Ranges} (h : (rs.map Prod.fst).IsChain (· ≤ ·)) :
    rs.IsOrdered :=
  List.pairwise_map.1 h.pairwise

theorem apart_of_runsApart {first last step first' last' step' n : Nat}
    (h : runsApart (first, last, step) (first', last', step') = true) (hn : first ≤ n ∧ n ≤ last)
    (hstep : (n - first) % step = 0) (hn' : first' ≤ n ∧ n ≤ last') :
    (n - first') % step' ≠ 0 := by
  simp only [runsApart, Bool.or_eq_true, Bool.and_eq_true, decide_eq_true_eq, beq_iff_eq,
    bne_iff_ne] at h
  obtain (hlt | hlt) | ⟨⟨rfl | rfl, rfl | rfl⟩, hodd⟩ := h <;> omega

theorem IsOrdered.mem_takeWhile {rs : Ranges} (h : rs.IsOrdered) {r : Nat × Nat × Nat} (hr : r ∈ rs)
    {k : Nat} (hk : r.1 ≤ k) : r ∈ rs.takeWhile (·.1 ≤ k) := by
  induction rs with
  | nil => cases hr
  | cons r' rs ih =>
    obtain ⟨hle, hrs⟩ := List.pairwise_cons.1 h
    rcases List.mem_cons.1 hr with rfl | hr
    · simp [hk]
    · have hk' : r'.1 ≤ k := Nat.le_trans (hle r hr) hk
      simp [hk', ih hrs hr]

theorem has_false_of_areApart {rs rs' : Ranges} (hrs : rs.IsOrdered) (hrs' : rs'.IsOrdered)
    (h : areApart rs rs' = true) {n : Nat} (hn : rs.has n = true) : rs'.has n = false := by
  induction rs generalizing rs' with
  | nil => cases hn
  | cons r rs ih =>
    obtain ⟨hapart, hrest⟩ := Bool.and_eq_true_iff.1 h
    obtain ⟨hle, hrs⟩ := List.pairwise_cons.1 hrs
    refine List.any_eq_false.2 fun r' hmem' hrun' => ?_
    obtain ⟨first', last', step'⟩ := r'
    simp only [Bool.and_eq_true, decide_eq_true_eq, beq_iff_eq] at hrun'
    obtain ⟨hn', hstep'⟩ := hrun'
    obtain ⟨⟨first, last, step⟩, hmem, hrun⟩ := List.any_eq_true.1 hn
    simp only [Bool.and_eq_true, decide_eq_true_eq, beq_iff_eq] at hrun
    obtain ⟨hwithin, hstep⟩ := hrun
    rcases List.mem_cons.1 hmem with rfl | hmem
    · have hlook := hrs'.mem_takeWhile hmem' (Nat.le_trans hn'.1 hwithin.2)
      exact apart_of_runsApart (List.all_eq_true.1 hapart _ hlook) hwithin hstep hn' hstep'
    · have hsplit := List.takeWhile_append_dropWhile (p := fun s => decide (s.2.1 < r.1)) (l := rs')
      rcases List.mem_append.1 (hsplit ▸ hmem') with hpast | hahead
      · have hlt := List.all_eq_true.1 List.all_takeWhile _ hpast
        have hge := hle _ hmem
        simp only [decide_eq_true_eq] at hlt hge
        omega
      · have hfalse := ih hrs (hrs'.sublist (List.dropWhile_sublist _)) hrest
          (List.any_eq_true.2 ⟨_, hmem, by simpa using ⟨hwithin, hstep⟩⟩)
        exact List.any_eq_false.1 hfalse _ hahead (by simpa using ⟨hn', hstep'⟩)

end Ranges

theorem caseRanges_areApart : lowerRanges.areApart upperRanges = true ∧
    (lowerRanges.map Prod.fst).IsChain (· ≤ ·) ∧ (upperRanges.map Prod.fst).IsChain (· ≤ ·) := by
  decide +kernel

/-- A small letter is no capital. -/
theorem isUpper_of_isLower {c : Char} (h : isLower c = true) : isUpper c = false := by
  unfold isLower at h
  unfold isUpper
  split
  · next hascii =>
    rw [if_pos hascii] at h
    have hsmall : (decide ('a'.val ≤ c.val) && decide (c.val ≤ 'z'.val)) = true := h
    have hcapital : c.isUpper = decide ('A'.val ≤ c.val ∧ c.val ≤ 'Z'.val) := rfl
    rw [hcapital]
    simp only [Bool.and_eq_true, decide_eq_true_eq, decide_eq_false_iff_not,
      UInt32.le_iff_toNat_le] at hsmall ⊢
    have ha : 'a'.val.toNat = 97 := rfl
    have hz : 'Z'.val.toNat = 90 := rfl
    omega
  · next hascii =>
    rw [if_neg hascii] at h
    obtain ⟨hapart, hlower, hupper⟩ := caseRanges_areApart
    exact Ranges.has_false_of_areApart (Ranges.isOrdered_of_isChain hlower)
      (Ranges.isOrdered_of_isChain hupper) hapart h

end Text

namespace Check

/-- Whether a character is a small letter or a capital. -/
def isCased (c : Char) : Bool := Text.isLetter c && (Text.isLower c || Text.isUpper c)

/-- Whether no word has been begun after a text: it has no letter with a case, or none after a
character that is not a letter. -/
def EndsWords (s : List Char) : Prop :=
  (∀ c ∈ s, isCased c = false) ∨
    ∃ front c gap, s = front ++ c :: gap ∧ Text.isLetter c = false ∧ ∀ d ∈ gap, isCased d = false

theorem endsWords_concat {s : List Char} {c : Char} :
    EndsWords (s ++ [c]) ↔ Text.isLetter c = false ∨ isCased c = false ∧ EndsWords s := by
  constructor
  · rintro (hnone | ⟨front, x, gap, hsplit, hx, hgap⟩)
    · exact .inr ⟨hnone c (by simp), .inl fun d hd => hnone d (by simp [hd])⟩
    · rcases List.eq_nil_or_concat gap with rfl | ⟨gap, d, rfl⟩
      · obtain ⟨-, hc⟩ := List.append_inj' hsplit rfl
        obtain rfl := List.singleton_inj.1 hc
        exact .inl hx
      · rw [List.concat_eq_append] at hgap hsplit
        rw [← List.cons_append, ← List.append_assoc] at hsplit
        obtain ⟨rfl, hd⟩ := List.append_inj' hsplit rfl
        obtain rfl := List.singleton_inj.1 hd
        refine .inr ⟨hgap c (by simp), .inr ⟨front, x, gap, rfl, hx, fun d hd => ?_⟩⟩
        exact hgap d (by simp [hd])
  · rintro (hc | ⟨hc, hnone | ⟨front, x, gap, rfl, hx, hgap⟩⟩)
    · exact .inr ⟨s, c, [], rfl, hc, by simp⟩
    · exact .inl (List.forall_mem_append.2 ⟨hnone, by simpa using hc⟩)
    · refine .inr ⟨front, x, gap ++ [c], by simp, hx, ?_⟩
      exact List.forall_mem_append.2 ⟨hgap, by simpa using hc⟩

/-! ### Reading the words -/

/-- A word: after its first letter come small letters only. -/
def IsWord (w : List Char) : Prop := w ≠ [] ∧ ∀ c ∈ w.tail, Text.isLower c = true

theorem isWord_singleton (c : Char) : IsWord [c] := ⟨by simp, by simp⟩

theorem IsWord.concat {w : List Char} (h : IsWord w) {c : Char} (hc : Text.isLower c = true) :
    IsWord (w ++ [c]) := by
  refine ⟨by simp, ?_⟩
  rw [List.tail_append_of_ne_nil h.1]
  exact List.forall_mem_append.2 ⟨h.2, by simpa using hc⟩

theorem flatten_flush (word : List Char) : (flush word).flatten = word.reverse := by
  cases word <;> simp [flush]

/-- The words that a text has ended so far, and the word that it has begun, in reverse. -/
structure Wording where
  ended : List (List Char) := []
  begun : List Char := []

namespace Wording

/-- What a character does: it ends the word, goes on with it, begins another, or does nothing. -/
def next (w : Wording) (c : Char) : Wording :=
  if !Text.isLetter c then ⟨w.ended ++ flush w.begun, []⟩
  else if Text.isLower c then { w with begun := c :: w.begun }
  else if Text.isUpper c then ⟨w.ended ++ flush w.begun, [c]⟩
  else w

/-- All words, if nothing follows. -/
def words (w : Wording) : List (List Char) := w.ended ++ flush w.begun

/-- The words of an identifier are those that reading it leaves. -/
theorem ended_append_identWordsFrom (w : Wording) (s : List Char) :
    w.ended ++ identWordsFrom w.begun s = (s.foldl next w).words := by
  induction s generalizing w with
  | nil => rfl
  | cons c s ih =>
    rw [List.foldl_cons, ← ih, identWordsFrom, next]
    split_ifs <;> simp

/-- What holds after a text has been read. -/
structure Reads (w : Wording) (s : List Char) : Prop where
  letters : w.words.flatten = s.filter isCased
  isWord : ∀ v ∈ w.words, IsWord v
  begun : w.begun = [] ↔ EndsWords s

/-- A character keeps what holds. -/
theorem Reads.next {w : Wording} {s : List Char} (h : w.Reads s) (c : Char) :
    (w.next c).Reads (s ++ [c]) := by
  have hletters : w.ended.flatten ++ w.begun.reverse = s.filter isCased := by
    rw [← h.letters, words, List.flatten_append, flatten_flush]
  have hended : ∀ v ∈ w.ended, IsWord v := fun v hv => h.isWord v (List.mem_append_left _ hv)
  unfold Wording.next
  split_ifs with hletter hlower hupper
  · have hc : isCased c = false := by simp_all [isCased]
    refine ⟨?_, ?_, ?_⟩
    · simpa [words, flush, hc] using h.letters
    · simpa [words, flush] using h.isWord
    · exact iff_of_true rfl (endsWords_concat.2 (.inl (by simpa using hletter)))
  · have hc : isCased c = true := by simp_all [isCased]
    refine ⟨?_, ?_, ?_⟩
    · simp [words, flatten_flush, hc, ← hletters]
    · refine List.forall_mem_append.2 ⟨hended, ?_⟩
      rintro v hv
      obtain rfl := List.mem_singleton.1 hv
      rw [List.reverse_cons]
      cases hbegun : w.begun with
      | nil => exact isWord_singleton c
      | cons d word =>
        refine (h.isWord _ ?_).concat hlower
        simp [words, flush, hbegun]
    · simp_all [endsWords_concat]
  · have hc : isCased c = true := by simp_all [isCased]
    refine ⟨?_, ?_, ?_⟩
    · simp [words, flatten_flush, hc, ← hletters]
    · refine List.forall_mem_append.2 ⟨h.isWord, ?_⟩
      rintro v hv
      obtain rfl := List.mem_singleton.1 hv
      exact isWord_singleton c
    · simp_all [endsWords_concat]
  · have hc : isCased c = false := by simp_all [isCased]
    refine ⟨?_, h.isWord, ?_⟩
    · simpa [hc] using h.letters
    · rw [h.begun, endsWords_concat]
      simp_all

theorem reads_wording (s : List Char) : (s.foldl Wording.next {}).Reads s := by
  induction s using List.reverseRecOn with
  | nil => exact ⟨rfl, by simp [words, flush], by simp [EndsWords]⟩
  | append_singleton s c ih =>
    rw [List.foldl_append]
    exact ih.next c

end Wording

/-! ### Where words begin -/

/-- A word that has been begun is the first of those that follow. -/
theorem identWordsFrom_of_ne_nil {word : List Char} (h : word ≠ []) (s : List Char) :
    ∃ more ws, identWordsFrom word s = (word.reverse ++ more) :: ws := by
  induction s generalizing word with
  | nil => exact ⟨[], [], by simp [identWordsFrom, flush, h]⟩
  | cons c s ih =>
    rw [identWordsFrom]
    split_ifs
    · exact ⟨[], identWordsFrom [] s, by simp [flush, h]⟩
    · obtain ⟨more, ws, hws⟩ := ih (List.cons_ne_nil c word)
      exact ⟨c :: more, ws, by simp [hws]⟩
    · exact ⟨[], identWordsFrom [c] s, by simp [flush, h]⟩
    · exact ih h

/-- Whether a word of a text begins with a letter that comes after a beginning of the text. -/
def BeginsWord (words : List (List Char)) (before : List Char) (c : Char) : Prop :=
  ∃ ws w vs, words = ws ++ (c :: w) :: vs ∧ ws.flatten = before.filter isCased

/-- A capital begins a word, and a small letter does so where none has been begun. -/
theorem beginsWord_iff (before : List Char) {c : Char} (after : List Char) (hc : isCased c = true) :
    BeginsWord (identWords (before ++ c :: after)) before c ↔
      Text.isUpper c = true ∨ Text.isLower c = true ∧ EndsWords before := by
  obtain ⟨hletter, hcase⟩ := Bool.and_eq_true_iff.1 hc
  have hreads := Wording.reads_wording before
  have hwords := Wording.ended_append_identWordsFrom {} (before ++ c :: after)
  rw [List.foldl_append, ← Wording.ended_append_identWordsFrom] at hwords
  set w := before.foldl Wording.next {}
  have hletters := hreads.letters
  rw [Wording.words, List.flatten_append, flatten_flush] at hletters
  change identWords _ = _ at hwords
  rw [hwords, identWordsFrom, hletter]
  cases hlower : Text.isLower c with
  | false =>
    have hupper : Text.isUpper c = true := by simpa [hlower] using hcase
    obtain ⟨more, ws, hws⟩ := identWordsFrom_of_ne_nil (List.cons_ne_nil c []) after
    refine iff_of_true ⟨w.words, more, ws, ?_, hreads.letters⟩ (.inl hupper)
    simp [hupper, hws, Wording.words]
  | true =>
    have hupper := Text.isUpper_of_isLower hlower
    by_cases hbegun : w.begun = []
    · obtain ⟨more, ws, hws⟩ := identWordsFrom_of_ne_nil (List.cons_ne_nil c []) after
      refine iff_of_true ⟨w.ended, more, ws, ?_, ?_⟩ (.inr ⟨rfl, hreads.begun.1 hbegun⟩)
      · simp [hbegun, hws]
      · simpa [hbegun] using hletters
    · obtain ⟨more, ws, hws⟩ := identWordsFrom_of_ne_nil (List.cons_ne_nil c w.begun) after
      refine iff_of_false ?_ (by simp [hupper, ← hreads.begun, hbegun])
      rintro ⟨us, v, vs, hsplit, hus⟩
      -- the word that holds the letter starts before it, so no number of words ends just there
      have hpos := List.length_pos_iff.2 hbegun
      have hlength := congrArg List.length (hletters.trans hus.symm)
      simp only [List.length_append, List.length_reverse] at hlength
      simp only [Bool.not_true, Bool.false_eq_true, if_false, if_true, hws] at hsplit
      rcases List.append_eq_append_iff.1 hsplit with ⟨mid, rfl, hmid⟩ | ⟨mid, hended, -⟩
      · rw [List.flatten_append, List.length_append] at hlength
        cases mid with
        | nil =>
          rw [List.flatten_nil, List.length_nil] at hlength
          omega
        | cons u mid =>
          obtain ⟨rfl, -⟩ := List.cons_eq_cons.1 hmid
          simp only [List.flatten_cons, List.length_append, List.length_reverse,
            List.length_cons] at hlength
          omega
      · rw [hended, List.flatten_append, List.length_append] at hlength
        omega

/-! ### The dictionary -/

theorem askUntil_eq (knows : Dictionary) (ws : List String) :
    askUntil knows ws = (ws.takeWhile knows ++ (ws.dropWhile knows).take 1, !ws.all knows) := by
  induction ws with
  | nil => rfl
  | cons w ws ih => cases hw : knows w <;> simp [askUntil, ih, hw]

/-- **The words of an identifier.** They are made up of the letters of the text that have a case, in
order; each has small letters only after its first letter; and a word begins just at each capital
and at each small letter before which no word has been begun. If spelling is checked, then the
dictionary is asked about these words in order, up to and including the first that it rejects, and
there is a complaint if and only if it rejects one. -/
theorem findSpelling_identifier (text : List Char) :
    (identWords text).flatten = text.filter isCased ∧
    (∀ w ∈ identWords text, w ≠ [] ∧ ∀ c ∈ w.tail, Text.isLower c = true) ∧
    (∀ before c after, text = before ++ c :: after → isCased c = true →
      (BeginsWord (identWords text) before c ↔
        Text.isUpper c = true ∨ Text.isLower c = true ∧ EndsWords before)) ∧
    ∀ (s : Settings) (knows : Dictionary), s.isActive .spelling = .ok true →
      findSpelling s knows text false = .ok
        (if ((identWords text).map String.ofList).all knows then none else some ⟨.spelling, []⟩,
          ((identWords text).map String.ofList).takeWhile knows ++
            (((identWords text).map String.ofList).dropWhile knows).take 1) := by
  have hreads := Wording.reads_wording text
  have hwords : identWords text = (text.foldl Wording.next {}).words :=
    Wording.ended_append_identWordsFrom {} text
  refine ⟨hwords ▸ hreads.letters, hwords ▸ hreads.isWord, ?_, fun s knows hs => ?_⟩
  · rintro before c after rfl hc
    exact beginsWord_iff before after hc
  · unfold findSpelling
    rw [hs]
    simp only [askUntil_eq, Bool.false_eq_true, if_false]
    cases ((identWords text).map String.ofList).all knows <;> rfl

/-- A name with a letter in title case, which belongs to no word, and small letters after a
digit. -/
def subTotal : List Char := "subǅTotal_2ndªRow".toList

/-- Of the four words the dictionary knows the first two, and is not asked about the last. -/
theorem findSpelling_identifier_subTotal :
    identWords subTotal = ["sub".toList, "Total".toList, "ndª".toList, "Row".toList] ∧
    isCased 'n' = true ∧ BeginsWord (identWords subTotal) "subǅTotal_2".toList 'n' ∧
    Settings.standard.isActive .spelling = .ok true ∧
    findSpelling .standard ["sub", "Total"].contains subTotal false =
      .ok (some ⟨.spelling, []⟩, ["sub", "Total", "ndª"]) := by
  obtain ⟨-, -, hbegins, hasks⟩ := findSpelling_identifier subTotal
  have hwords : identWords subTotal =
      ["sub".toList, "Total".toList, "ndª".toList, "Row".toList] := by decide +kernel
  have hcased : isCased 'n' = true := by decide +kernel
  have hends : EndsWords "subǅTotal_2".toList :=
    .inr ⟨"subǅTotal_".toList, '2', [], rfl, by decide +kernel, by simp⟩
  refine ⟨hwords, hcased, ?_, rfl, ?_⟩
  · exact (hbegins "subǅTotal_2".toList 'n' "dªRow".toList rfl hcased).2
      (.inr ⟨by decide +kernel, hends⟩)
  · rw [hasks .standard ["sub", "Total"].contains rfl, hwords]
    rfl

end Check

end BrightLint
