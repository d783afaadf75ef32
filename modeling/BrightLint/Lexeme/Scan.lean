import BrightLint.Lexeme.Table

/-!
Cutting a text into lexemes.

* `Lexeme.first?`: the lexeme at the head of a text
* `scan`: the lexemes of a text, and the rest on which no lexeme starts

Every lexeme takes at least one character, so cutting ends (`first?_ne_nil`).
-/

namespace BrightLint

namespace Lexeme

/-- The lexeme at the head of a text: that of the first rule that reads one. -/
def first? (s : List Char) : Option Lexeme := lexemeRules.findSome? (·.read? s)

end Lexeme

/-! ### Progress -/

/-- Whether the texts that a shape reads are never empty. -/
def Shape.isSolid : Shape → Bool
  | .sign t | .word t => !t.toList.isEmpty
  | _ => true

theorem afterFolded?_length {w s r : List Char} (h : afterFolded? w s = some r) :
    s.length = w.length + r.length := by
  induction w generalizing s with
  | nil => cases h; simp
  | cons a w ih =>
    cases s with
    | nil => cases h
    | cons c s =>
      rw [afterFolded?] at h
      split at h
      · simp [ih h]; omega
      · cases h

theorem afterFolded?_head {w s r : List Char} (h : afterFolded? ('r' :: w) s = some r) :
    ∃ c t, s = c :: t ∧ c ≠ '\n' := by
  cases s with
  | nil => cases h
  | cons c t =>
    refine ⟨c, t, rfl, ?_⟩
    rintro rfl
    rw [afterFolded?, if_neg (by decide)] at h
    cases h

theorem afterMark?_head {s r : List Char} (h : afterMark? s = some r) :
    ∃ c t, s = c :: t ∧ c ≠ '\n' := by
  unfold afterMark? at h
  split at h
  · exact ⟨_, _, rfl, by decide⟩
  · exact afterFolded?_head h

theorem startsRemark_head {s : List Char} (h : startsRemark s = true) :
    ∃ c t, s = c :: t ∧ c ≠ '\n' := by
  unfold startsRemark at h
  split at h
  · exact ⟨_, _, rfl, by decide⟩
  · split at h
    · next hr => exact afterFolded?_head hr
    · cases h

theorem firstLine_ne_nil {c : Char} (t : List Char) (h : c ≠ '\n') : Text.firstLine (c :: t) ≠ [] := by
  simp [Text.firstLine, h]

theorem Shape.read?_ne_nil {sh : Shape} (hs : sh.isSolid = true) {s t : List Char} {p : Parts}
    (h : sh.read? s = some (t, p)) : t ≠ [] := by
  unfold Shape.read? at h
  split at h
  · split at h <;> cases h; simp
  · split at h
    · split at h <;> cases h; simp
    · cases h
  · split at h <;> cases h
    simpa [Shape.isSolid] using hs
  · split at h
    · next w rest hw =>
      split at h <;> cases h
      have := afterFolded?_length hw
      simp only [Shape.isSolid, Bool.not_eq_true', List.isEmpty_eq_false_iff] at hs
      have hpos := List.length_pos_iff.2 hs
      intro h0
      have hlen := congrArg List.length h0
      rw [List.length_take, List.length_nil] at hlen
      omega
    · cases h
  · obtain ⟨q, hq, he⟩ := Option.map_eq_some_iff.1 h
    cases he
    unfold readDirective? at hq
    cases hm : afterMark? s with
    | none => simp [hm] at hq
    | some r =>
      obtain ⟨c, u, rfl, hc⟩ := afterMark?_head hm
      exact firstLine_ne_nil u hc
  · split at h <;> cases h
    next hr =>
    obtain ⟨c, u, rfl, hc⟩ := startsRemark_head hr
    exact firstLine_ne_nil u hc
  · unfold readIdent? at h
    split at h
    · next c _ =>
      split at h <;> cases h
      next hc => simp [isNameChar, hc]
    · cases h
  · unfold readQuoted? at h
    split at h
    · split at h <;> cases h; simp
    · cases h
  · simp only at h
    split at h <;> cases h
    next hne => simpa using hne

theorem lexemeRules_isSolid : ∀ r ∈ lexemeRules, r.shape.isSolid = true := by decide +kernel

namespace Lexeme

theorem first?_ne_nil {s : List Char} {x : Lexeme} (h : first? s = some x) : x.text ≠ [] := by
  obtain ⟨r, hr, hx⟩ := List.exists_of_findSome?_eq_some h
  unfold Rule.read? at hx
  obtain ⟨⟨t, p⟩, ht, rfl⟩ := Option.map_eq_some_iff.1 hx
  exact Shape.read?_ne_nil (lexemeRules_isSolid r hr) ht

end Lexeme

/-! ### Scanning -/

/-- The lexemes of a text in order, and what is left where no lexeme starts. -/
def scan (s : List Char) : List Lexeme × List Char :=
  match s with
  | [] => ([], [])
  | c :: t =>
    match _hx : Lexeme.first? (c :: t) with
    | none => ([], c :: t)
    | some x =>
      let (xs, rest) := scan ((c :: t).drop x.text.length)
      (x :: xs, rest)
termination_by s.length
decreasing_by
  have := List.length_pos_iff.2 (Lexeme.first?_ne_nil _hx)
  simp only [List.length_drop, List.length_cons]
  omega

end BrightLint
