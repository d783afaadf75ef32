import BrightLint.Check.Operator
import BrightLint.Proofs.PatternMatches

/-!
The spaces around an operator. What the check looks at is a window: as much of the text before and
after the operator as the settings ask for blanks, and one character more on either side. The
pattern leaves these two characters open, so a match could start one place too early. It does so
only for an operator that repeats one character, and then the verdict is the same.

* `Check.IsSpaced`: an operator with the right number of blanks on either side
* `Check.fits_operatorPattern_iff`: the pattern, place by place
* `Check.fits_window_iff`: the pattern fits the window if the operator is well spaced
* `Check.findOperatorSpacing_iff`: the verdict of the check
-/

namespace BrightLint

/-- A span between two places, the first of which is not negative. -/
theorem Span.between_ofNat {α : Type} (lo hi : Nat) (xs : List α) :
    between lo hi xs = (xs.drop lo).take (hi - lo) := by
  have hplace : ∀ i : Nat, place xs.length i = min i xs.length := fun i => by
    simp [place, Int.not_lt.2 (Int.natCast_nonneg i)]
  rw [between, hplace, hplace]
  by_cases hlo : lo ≤ xs.length
  · rw [Nat.min_eq_left hlo, List.take_eq_take_iff, List.length_drop]
    omega
  · rw [List.drop_eq_nil_of_le (by omega), List.drop_eq_nil_of_le (by omega), List.take_nil,
      List.take_nil]

namespace Check

open Pattern (AllFrom)

/-! ### The pattern -/

/-- An operator with `n` blanks on either side stands in a text, the first gap starting at place
`i`; then the text ends, after one more solid character at most. -/
structure FitsAt (op w : List Char) (n i : Nat) : Prop where
  before : AllFrom w.toArray Text.isBlank i n
  operator : op <+: w.drop (i + n)
  after : AllFrom w.toArray Text.isBlank (i + n + op.length) n
  rest : Pattern.isLast w.toArray (i + n + op.length + n) = true ∨
    w[i + n + op.length + n]?.any (!Text.isBlank ·) = true ∧
      Pattern.isLast w.toArray (i + n + op.length + n + 1) = true

/-- The first gap starts the text, or follows one solid character. -/
theorem fits_operatorPattern_iff {op w : List Char} {n : Nat} :
    (operatorPattern op (.times n (some n) .blank)).fits w = true ↔
      FitsAt op w n 0 ∨ w[0]?.any (!Text.isBlank ·) = true ∧ FitsAt op w n 1 := by
  have hfrom : ∀ i, (∃ j, j ∈ (Pattern.chain [.times n (some n) .blank, .literal op,
      .times n (some n) .blank, .optional .solid, .stop]).ends w.toArray i) ↔ FitsAt op w n i := by
    intro i
    simp only [Pattern.chain, Pattern.solid, Pattern.blank, Pattern.mem_ends_seq,
      Pattern.mem_ends_optional, Pattern.mem_ends_exactly, Pattern.mem_ends_literal,
      Pattern.mem_ends_stop, List.getElem?_toArray]
    constructor
    · rintro ⟨j, -, ⟨rfl, hbefore⟩, -, ⟨rfl, hop⟩, -, ⟨rfl, hafter⟩, k, hk, -, hlast⟩
      refine ⟨hbefore, hop, hafter, ?_⟩
      rcases hk with rfl | ⟨rfl, hsolid⟩
      · exact .inl hlast
      · exact .inr ⟨hsolid, hlast⟩
    · rintro ⟨hbefore, hop, hafter, hlast | ⟨hsolid, hlast⟩⟩
      · exact ⟨_, _, ⟨rfl, hbefore⟩, _, ⟨rfl, hop⟩, _, ⟨rfl, hafter⟩, _, .inl rfl, rfl, hlast⟩
      · exact ⟨_, _, ⟨rfl, hbefore⟩, _, ⟨rfl, hop⟩, _, ⟨rfl, hafter⟩, _, .inr ⟨rfl, hsolid⟩, rfl,
          hlast⟩
  rw [Pattern.fits_iff, ← hfrom, ← hfrom]
  simp only [operatorPattern, Pattern.chain, Pattern.mem_ends_seq (p := .optional .solid)]
  constructor
  · rintro ⟨j, i, hi, hj⟩
    rcases Pattern.mem_ends_optional.1 hi with rfl | ⟨rfl, hsolid⟩
    · exact .inl ⟨j, hj⟩
    · exact .inr ⟨by simpa using hsolid, j, hj⟩
  · rintro (⟨j, hj⟩ | ⟨hsolid, j, hj⟩)
    · exact ⟨j, 0, Pattern.mem_ends_optional.2 (.inl rfl), hj⟩
    · exact ⟨j, 1, Pattern.mem_ends_optional.2 (.inr ⟨rfl, by simpa using hsolid⟩), hj⟩

/-- A text that starts with an operator, and does so again one character later, goes on with the
first character of the operator: the operator repeats it. -/
theorem getElem?_of_shifted {c : Char} {op u : List Char} (h : c :: op <+: u)
    (hnext : c :: op <+: u.drop 1) : ∀ k ≤ (c :: op).length, u[k]? = some c := by
  intro k hk
  rw [List.prefix_iff_getElem?] at h hnext
  induction k with
  | zero => exact h 0 (by simp)
  | succ k ih =>
    have hsame := hnext k hk
    rw [List.getElem?_drop, Nat.add_comm, ← h k hk] at hsame
    rw [hsame, ih (Nat.le_of_succ_le hk)]

/-! ### The window -/

/-- An operator that ends at place `e` of a text is well spaced by `n`: it stands after `n` blanks,
which follow something solid at place `b`, and before just `n` blanks, unless a line feed comes
after these. -/
structure IsSpaced (text : List Char) (n b e : Nat) : Prop where
  solid : text[b]?.any (!Text.isBlank ·) = true
  before : ∀ k < n, text[b + 1 + k]?.any Text.isBlank = true
  after : ∀ k < n, text[e + k]?.any Text.isBlank = true
  rest : ∀ c, text[e + n]? = some c → c = '\n' ∨ Text.isBlank c = false

section Window

variable {c : Char} {op text : List Char} {n b e : Nat}

/-- What the check looks at. -/
def window (text op : List Char) (n b : Nat) : List Char :=
  (text.drop b).take (1 + n + op.length + n + 1)

theorem getElem?_window {k j : Nat} (hk : k < 1 + n + op.length + n + 1) (hj : j = b + k) :
    (window text op n b)[k]? = text[j]? := by
  rw [window, List.getElem?_take_of_lt hk, List.getElem?_drop, hj]

theorem length_window_le : (window text op n b).length ≤ 1 + n + op.length + n + 1 := by
  rw [window, List.length_take]
  exact Nat.min_le_left _ _

theorem prefix_drop_window {i : Nat} (hi : i ≤ 1) :
    op <+: (window text op n b).drop (i + n) ↔ op <+: text.drop (b + (i + n)) := by
  rw [window, List.drop_take, List.drop_drop, List.prefix_take_iff]
  exact and_iff_left (by omega)

theorem isLast_window_succ :
    Pattern.isLast (window text op n b).toArray (1 + n + op.length + n + 1) = true := by
  simp [Pattern.isLast, length_window_le]

/-- What may follow the second gap. -/
theorem isLast_window (he : e = b + n + 1 + op.length) :
    Pattern.isLast (window text op n b).toArray (1 + n + op.length + n) = true ↔
      ∀ c, text[e + n]? = some c → c = '\n' := by
  have hat : (window text op n b)[1 + n + op.length + n]? = text[e + n]? :=
    getElem?_window (Nat.lt_succ_self _) (by omega)
  rw [Pattern.isLast, List.size_toArray, List.getElem?_toArray, ← hat]
  cases hc : (window text op n b)[1 + n + op.length + n]? with
  | none => simpa using List.getElem?_eq_none_iff.1 hc
  | some c =>
    have hlt := (List.getElem?_eq_some_iff.1 hc).1
    have hlength : (window text op n b).length = 1 + n + op.length + n + 1 :=
      Nat.le_antisymm length_window_le hlt
    rw [hlength, decide_eq_false (Nat.not_succ_le_self _)]
    simp

/-- A gap of the window is a gap of the text. -/
theorem allFrom_window {i j : Nat} (hi : i + n ≤ 1 + n + op.length + n + 1) (hj : j = b + i) :
    AllFrom (window text op n b).toArray Text.isBlank i n ↔
      ∀ k < n, text[j + k]?.any Text.isBlank = true := by
  refine forall₂_congr fun k hk => ?_
  rw [List.getElem?_toArray, getElem?_window (j := j + k) (by omega) (by omega)]

/-- The pattern fits where it should just if the operator is well spaced. -/
theorem fitsAt_window_iff (he : e = b + n + 1 + op.length) (hat : op <+: text.drop (b + n + 1)) :
    (window text op n b)[0]?.any (!Text.isBlank ·) = true ∧ FitsAt op (window text op n b) n 1 ↔
      IsSpaced text n b e := by
  have hsolid : (window text op n b)[0]? = text[b]? := getElem?_window (by omega) (by omega)
  have hnext : (window text op n b)[1 + n + op.length + n]? = text[e + n]? :=
    getElem?_window (by omega) (by omega)
  have hbefore : AllFrom (window text op n b).toArray Text.isBlank 1 n ↔ _ :=
    allFrom_window (by omega) rfl
  have hafter : AllFrom (window text op n b).toArray Text.isBlank (1 + n + op.length) n ↔
      ∀ k < n, text[e + k]?.any Text.isBlank = true := allFrom_window (by omega) (by omega)
  rw [hsolid]
  constructor
  · rintro ⟨h, hfits⟩
    refine ⟨h, hbefore.1 hfits.before, hafter.1 hfits.after, fun c hc => ?_⟩
    rcases hfits.rest with hlast | ⟨hrest, -⟩
    · exact .inl ((isLast_window he).1 hlast c hc)
    · rw [hnext, hc] at hrest
      exact .inr (by simpa using hrest)
  · intro h
    refine ⟨h.solid, hbefore.2 h.before, ?_, hafter.2 h.after, ?_⟩
    · rw [prefix_drop_window (Nat.le_refl 1), Nat.add_comm 1, ← Nat.add_assoc]
      exact hat
    · rw [hnext]
      cases hc : text[e + n]? with
      | none => exact .inl ((isLast_window he).2 (by simp [hc]))
      | some c =>
        rcases h.rest c hc with rfl | hsolid
        · exact .inl ((isLast_window he).2 (by simp [hc]))
        · exact .inr ⟨by simpa using hsolid, isLast_window_succ⟩

/-- Where the pattern fits one place too early, the operator repeats one character, and no blanks
are asked for. -/
theorem isSpaced_of_fitsAt_zero (hc : Text.isBlank c = false)
    (he : e = b + n + 1 + (c :: op).length) (hat : c :: op <+: text.drop (b + n + 1))
    (h : FitsAt (c :: op) (window text (c :: op) n b) n 0) : IsSpaced text n b e := by
  -- the operator stands at two places next to each other
  have hagain : c :: op <+: ((window text (c :: op) n b).drop n).drop 1 := by
    rw [List.drop_drop, Nat.add_comm n, prefix_drop_window (Nat.le_refl 1), Nat.add_comm 1,
      ← Nat.add_assoc]
    exact hat
  have hrepeats : ∀ k ≤ (c :: op).length, (window text (c :: op) n b)[n + k]? = some c := by
    intro k hk
    rw [← List.getElem?_drop]
    exact getElem?_of_shifted (by simpa using h.operator) hagain k hk
  have hend := hrepeats _ (Nat.le_refl _)
  obtain rfl : n = 0 := by
    refine Nat.eq_zero_of_not_pos fun hn => ?_
    have hblank := h.after 0 hn
    rw [List.getElem?_toArray, Nat.add_zero, Nat.zero_add, hend] at hblank
    simp [hc] at hblank
  have hsolid : text[b]? = some c := by
    rw [← hrepeats 0 (Nat.zero_le _)]
    exact (getElem?_window (by omega) (by omega)).symm
  refine ⟨by simp [hsolid, hc], by simp, by simp, ?_⟩
  have hrest := h.rest
  simp only [Nat.zero_add, Nat.add_zero] at hrest hend
  rcases hrest with hlast | ⟨-, hlast⟩
  · -- the window does not end with the match, and what follows in it is not a line feed
    have hlt := (List.getElem?_eq_some_iff.1 hend).1
    rw [Pattern.isLast, List.size_toArray, List.getElem?_toArray, hend, Bool.or_eq_true,
      decide_eq_true_eq, Bool.and_eq_true, beq_iff_eq, beq_iff_eq, Option.some.injEq] at hlast
    rcases hlast with hle | ⟨-, rfl⟩
    · exact absurd hle (Nat.not_le.2 hlt)
    · cases hc
  · intro d hd
    rw [Nat.add_comm] at hlast
    exact .inl ((isLast_window he).1 hlast d hd)

/-- The pattern fits the window just if the operator is well spaced. -/
theorem fits_window_iff (hc : Text.isBlank c = false) (he : e = b + n + 1 + (c :: op).length)
    (hat : c :: op <+: text.drop (b + n + 1)) :
    (operatorPattern (c :: op) (.times n (some n) .blank)).fits (window text (c :: op) n b) = true ↔
      IsSpaced text n b e := by
  rw [fits_operatorPattern_iff, fitsAt_window_iff he hat]
  exact ⟨fun h => h.elim (isSpaced_of_fitsAt_zero hc he hat) id, .inr⟩

end Window

/-! ### The check -/

section Check

variable {s : Settings} {n : Nat} {text op : List Char} {b e : Nat}

/-- The check asks whether the pattern fits the window, unless the gap is too long for a pattern. -/
theorem findOperatorSpacing_eq (hs : s.isActive .operatorSpacing = .ok true)
    (hn : s.param .operatorSpacing "spaces_around_operators" = .ok (.int n))
    (he : e = b + n + 1 + op.length) :
    findOperatorSpacing s text e op =
      if Pattern.roundLimit ≤ n then .error .tooManyRounds
      else .ok (if (operatorPattern op (.times n (some n) .blank)).fits (window text op n b)
        then none else some ⟨.operatorSpacing, [.int n]⟩) := by
  have hwindow : Span.between ((e : Int) - n - 1 - op.length) ((e : Int) + n + 1) text =
      window text op n b := by
    have hlo : (e : Int) - n - 1 - op.length = (b : Nat) := by omega
    have hhi : (e : Int) + n + 1 = ((e + n + 1 : Nat) : Int) := rfl
    rw [hlo, hhi, Span.between_ofNat, window]
    congr 1
    omega
  have hnumber : (Json.int n).number = .ok (n : Int) := rfl
  unfold findOperatorSpacing whenActive
  rw [hs, hn]
  simp only [bind, Except.bind, if_true, hnumber, hwindow, operatorGap]
  by_cases hlimit : Pattern.roundLimit ≤ n
  · rw [if_pos hlimit, Pattern.exactly?, if_neg (Int.not_lt.2 (Int.natCast_nonneg n)),
      Int.toNat_natCast, if_pos hlimit]
  · rw [if_neg hlimit, Pattern.exactly?_ofNat _ _ (Nat.not_le.1 hlimit)]
    simp only [apply_ite Except.ok]
    rfl

/-- **The spaces around an operator.** Let an operator end at place `e` of a text, and let there be
room before it for the `n` spaces that the settings ask for and one character more, at place `b`.
Then nothing is complained of just if that character is solid, `n` blanks stand on either side, and
after them the text ends, or a line feed or something solid follows. Otherwise there is a complaint.
A number of spaces that is too large for a pattern is a fault of the settings instead. -/
theorem findOperatorSpacing_iff (hs : s.isActive .operatorSpacing = .ok true)
    (hn : s.param .operatorSpacing "spaces_around_operators" = .ok (.int n)) (x : Lexeme)
    (hx : x.IsCut) (hkind : x.kind = .operator) (he : e = b + n + 1 + x.text.length)
    (hat : (text.drop (b + n + 1)).take x.text.length = x.text) :
    (findOperatorSpacing s text e x.text = .ok none ↔
      n < Pattern.roundLimit ∧ IsSpaced text n b e) ∧
    (findOperatorSpacing s text e x.text = .ok (some ⟨.operatorSpacing, [.int n]⟩) ↔
      n < Pattern.roundLimit ∧ ¬ IsSpaced text n b e) ∧
    (findOperatorSpacing s text e x.text = .error .tooManyRounds ↔ Pattern.roundLimit ≤ n) := by
  obtain ⟨c, op, hop, hc⟩ := hx.exists_cons (by simp [hkind]) (by simp [hkind])
  rw [hop] at he hat
  have hfits := fits_window_iff hc he (List.prefix_iff_eq_take.2 hat.symm)
  rw [hop, findOperatorSpacing_eq hs hn he]
  by_cases hlimit : Pattern.roundLimit ≤ n
  · simp [hlimit, Nat.not_lt.2 hlimit]
  · by_cases hspaced : IsSpaced text n b e
    · simp [hfits.2 hspaced, hlimit, hspaced, Nat.not_le.1 hlimit]
    · simp [mt hfits.1 hspaced, hlimit, hspaced, Nat.not_le.1 hlimit]

/-- Settings that ask for a number of spaces around operators, and for nothing else. -/
def spacedBy (n : Nat) : Settings :=
  .single .operatorSpacing (.obj [("spaces_around_operators", .int n)])

/-- The sign that shifts to the right. -/
def shiftRight : Lexeme := ⟨">>".toList, .plain, .operator, .operator, 0⟩

/-- Three angles without a space are an angle and a well spaced sign, although the sign stands in
the first two of them as well; with two spaces behind it the sign is complained of. -/
theorem findOperatorSpacing_iff_shiftRight :
    shiftRight.IsCut ∧ shiftRight.kind = .operator ∧
    findOperatorSpacing (spacedBy 0) ">>>".toList 3 shiftRight.text = .ok none ∧
    findOperatorSpacing (spacedBy 1) "x >>  y".toList 4 shiftRight.text =
      .ok (some ⟨.operatorSpacing, [.int 1]⟩) := by
  have hcut : shiftRight.IsCut := ⟨">>".toList, rfl⟩
  have hspaced : IsSpaced ">>>".toList 0 0 3 := ⟨rfl, by simp, by simp, by simp⟩
  have hloose : ¬ IsSpaced "x >>  y".toList 1 0 4 := fun h =>
    absurd (h.rest ' ' rfl) (by decide)
  refine ⟨hcut, rfl, ?_, ?_⟩
  · exact (findOperatorSpacing_iff (n := 0) (b := 0) (e := 3) rfl rfl shiftRight hcut rfl rfl
      rfl).1.2 ⟨by decide, hspaced⟩
  · exact (findOperatorSpacing_iff (n := 1) (b := 0) (e := 4) rfl rfl shiftRight hcut rfl rfl
      rfl).2.1.2
      ⟨by decide, hloose⟩

end Check

end Check

end BrightLint
