import BrightLint.Proofs.Traversal

/-!
Looking back. A bracket that closes looks at the token before it, and the end of a line inside
brackets at the latest token; where there is none, the reading cannot go on. Which lexeme this
happens at, if at any, can be told from the outline. Without directives, which can open and close
brackets that are not there, it happens only if the first token of a text is a bracket that closes.

* `Outline.falters`, `Outline.faltersIn`: lexemes that look back at nothing
* `startsClosed`: the first token is a bracket that closes
* `Outline.faltersIn_of_isBlank`: without directives the two come to the same
-/

namespace BrightLint

namespace Outline

/-- Whether a bracket is closed before which there is no token. -/
def closesTooSoon (o : Outline) : Bool :=
  (o.topic.bind Topic.boundary?).any Boundary.isClosing && decide (o.tokens.length < 2)

/-- Whether a lexeme looks back at a token where there is none. -/
def falters (x : Lexeme) (o : Outline) : Bool :=
  x.kind != .blank && (x.kind == .newLine && o.missesToken || (o.read x).closesTooSoon)

/-- Whether one of some lexemes does. -/
def faltersIn : List Lexeme → Outline → Bool
  | [], _ => false
  | x :: xs, o => o.falters x || faltersIn xs (o.next false x)

end Outline

/-- Whether a text has a lexeme that looks back at a token where there is none. -/
def Text.falters (text : List Char) : Bool := Reading.fresh.outline.faltersIn (scan text).1

/-! ### Lexemes and their tokens -/

namespace Lexeme

/-- Whether a lexeme gives a token of its own. -/
def givesToken (x : Lexeme) : Bool :=
  x.kind != .blank && x.kind != .newLine && x.kind != .directive && x.kind != .comment

/-- Whether a lexeme is a bracket that closes. -/
def closes (x : Lexeme) : Bool := x.kind == .closeCurly || x.kind == .closeSquare

end Lexeme

/-- Whether the first token of some lexemes is a bracket that closes. -/
def startsClosed (xs : List Lexeme) : Bool := (xs.find? Lexeme.givesToken).any Lexeme.closes

theorem Kind.isClosing_boundary? (k : Kind) :
    k.boundary?.any Boundary.isClosing = (k == .closeCurly || k == .closeSquare) := by
  cases k <;> rfl

namespace Outline

variable {o : Outline} {x : Lexeme}

theorem read_of_givesToken (hx : x.givesToken = true) (o : Outline) :
    ∃ t, t.symbol = x.symbol ∧ (o.read x).tokens = t :: o.tokens ∧
      (o.read x).topic = some (.kind x.kind) := by
  simp only [Lexeme.givesToken, Bool.and_eq_true, bne_iff_ne] at hx
  obtain ⟨⟨⟨-, hline⟩, hdirective⟩, hcomment⟩ := hx
  unfold read
  cases hrole : x.role with
  | lineEnd => exact absurd (x.kind_of_lineEnd hrole) hline
  | directive command => exact absurd (x.kind_of_directive hrole) hdirective
  | word =>
    rcases x.token?_cases with ⟨hk, -⟩ | ⟨t, ht, hsymbol⟩
    · exact absurd hk hcomment
    · simp only [addToken, ht]
      refine ⟨_, ?_, congrArg _ (agrees_countFunction _ _).tokens, ?_⟩
      · exact hsymbol
      · exact topic_countFunction _ _

theorem falters_of_givesToken (hx : x.givesToken = true) (o : Outline) :
    o.falters x = (x.closes && o.tokens.isEmpty) := by
  obtain ⟨t, -, htokens, htopic⟩ := read_of_givesToken hx o
  simp only [Lexeme.givesToken, Bool.and_eq_true] at hx
  obtain ⟨⟨⟨hblank, hline⟩, -⟩, -⟩ := hx
  have hkind : (x.kind == .newLine) = false := by simpa using hline
  unfold falters closesTooSoon
  rw [hblank, hkind, htokens, htopic]
  change (x.kind.boundary?.any Boundary.isClosing && _) = _
  rw [Kind.isClosing_boundary?]
  cases o.tokens <;> rfl

/-- What gives no token and is no directive is white space, the end of a line or a comment. -/
theorem kind_of_not_givesToken (hx : x.givesToken = false) (hdirective : x.kind ≠ .directive) :
    x.kind = .blank ∨ x.kind = .newLine ∨ x.kind = .comment := by
  simp only [Lexeme.givesToken, Bool.and_eq_false_iff, bne_eq_false_iff_eq] at hx
  rcases hx with ((hk | hk) | hk) | hk
  · exact .inl hk
  · exact .inr (.inl hk)
  · exact absurd hk hdirective
  · exact .inr (.inr hk)

theorem read_of_newLine (hx : x.kind = .newLine) (o : Outline) :
    o.read x = (o.turnTo (.kind .newLine)).endLine := by
  unfold read
  rw [Reading.role_of_newLine hx, hx]

theorem read_of_comment (hx : x.kind = .comment) (o : Outline) :
    o.read x = o.turnTo (.kind .comment) := by
  have hrole : x.role = .word := by
    unfold Lexeme.role
    rw [hx]
  have htoken : x.token? = none := by
    unfold Lexeme.token?
    rw [if_pos hx]
  unfold read addToken countFunction
  simp only [hrole, htoken, hx, ite_self]

theorem falters_of_not_givesToken (hx : x.givesToken = false) (hdirective : x.kind ≠ .directive)
    (o : Outline) : o.falters x = (x.kind == .newLine && o.missesToken) := by
  unfold falters closesTooSoon
  rcases kind_of_not_givesToken hx hdirective with hk | hk | hk
  · rw [hk]
    rfl
  · rw [read_of_newLine hk, topic_endLine, hk]
    exact Bool.or_false _
  · rw [read_of_comment hk, hk]
    rfl

/-- Nothing has been read that counts: there are no tokens, and no bracket is open. -/
structure IsBlank (o : Outline) : Prop where
  tokens : o.tokens = []
  openCurly : o.openCurly = 0
  openSquare : o.openSquare = 0

theorem IsBlank.settle (h : o.IsBlank) : o.settle.IsBlank := by
  unfold Outline.settle
  split
  · exact ⟨h.tokens, h.openCurly, h.openSquare⟩
  · exact h

theorem IsBlank.endLine (h : o.IsBlank) : o.endLine.IsBlank := by
  have hwants : { o with statementEnded := true }.wantsComma = false := by
    simp [wantsComma, h.openCurly, h.openSquare]
  unfold Outline.endLine addComma
  rw [if_neg (by simp [hwants])]
  exact ⟨h.tokens, h.openCurly, h.openSquare⟩

/-- What gives no token leaves it at that. -/
theorem IsBlank.next (h : o.IsBlank) (hx : x.givesToken = false) (hdirective : x.kind ≠ .directive)
    (lax : Bool) : (o.next lax x).IsBlank := by
  have hturn : ∀ t, (o.turnTo t).IsBlank := fun _ => ⟨h.tokens, h.openCurly, h.openSquare⟩
  have hadvance : (o.advance lax x).IsBlank := by
    unfold advance
    rcases kind_of_not_givesToken hx hdirective with hk | hk | hk
    · rw [if_pos hk]
      exact h
    · rw [if_neg (by rw [hk]; decide), read_of_newLine hk,
        bound_of_none (by rw [topic_endLine]; rfl)]
      exact (hturn _).endLine.settle
    · rw [if_neg (by rw [hk]; decide), read_of_comment hk, bound_of_none rfl]
      exact (hturn _).settle
  unfold Outline.next
  split
  · exact ⟨hadvance.tokens, hadvance.openCurly, hadvance.openSquare⟩
  · exact hadvance

/-! ### Tokens never run out -/

theorem tokens_bound_ne_nil (lax : Bool) (h : o.tokens ≠ []) : (o.bound lax).tokens ≠ [] := by
  have hdrop : o.dropComma.tokens ≠ [] := by
    unfold dropComma
    split
    · intro hnil
      exact h (by simpa using (List.append_eq_nil_iff.1 hnil).1)
    · exact h
  have hclose : ∀ g : Outline → Outline, (∀ o, (g o).tokens = o.tokens) →
      (o.close lax g).tokens ≠ [] := by
    intro g hg
    unfold Outline.close
    split
    · exact h
    · rwa [hg]
  unfold bound
  split
  · rwa [tokens_settle]
  · next b _ =>
    rw [tokens_settle]
    cases b with
    | closeCurly => exact hclose _ fun _ => rfl
    | closeSquare => exact hclose _ fun _ => rfl
    | _ => exact h

theorem tokens_read_ne_nil (x : Lexeme) (h : o.tokens ≠ []) : (o.read x).tokens ≠ [] := by
  unfold read
  cases x.role with
  | lineEnd =>
    unfold Outline.endLine addComma
    simp only
    split
    · exact List.cons_ne_nil _ _
    · exact h
  | directive command => exact h
  | word =>
    unfold addToken
    simp only
    split
    · exact List.cons_ne_nil _ _
    · rwa [(agrees_countFunction _ _).tokens]

theorem tokens_next_ne_nil {lax : Bool} (h : (o.advance lax x).tokens ≠ []) :
    (o.next lax x).tokens ≠ [] := by
  unfold Outline.next
  split <;> exact h

/-- Where there are tokens, there is always one to look back at. -/
theorem faltersIn_of_tokens {xs : List Lexeme} (h : o.tokens ≠ [])
    (hxs : ∀ x ∈ xs, x.kind ≠ .directive) : o.faltersIn xs = false := by
  induction xs generalizing o with
  | nil => rfl
  | cons x xs ih =>
    obtain ⟨hx, hxs⟩ := List.forall_mem_cons.1 hxs
    have hempty : o.tokens.isEmpty = false := by simpa using h
    have hfalters : o.falters x = false := by
      cases hgives : x.givesToken with
      | true => rw [falters_of_givesToken hgives, hempty, Bool.and_false]
      | false =>
        rw [falters_of_not_givesToken hgives hx, missesToken, hempty, Bool.and_false,
          Bool.and_false]
    have hnext : (o.next false x).tokens ≠ [] := by
      refine tokens_next_ne_nil ?_
      unfold advance
      split
      · exact h
      · exact tokens_bound_ne_nil false (tokens_read_ne_nil x h)
    rw [faltersIn, hfalters, ih hnext hxs]
    rfl

/-- **Without directives** only the first token can be a bracket that closes too soon. -/
theorem faltersIn_of_isBlank {xs : List Lexeme} (h : o.IsBlank)
    (hxs : ∀ x ∈ xs, x.kind ≠ .directive) : o.faltersIn xs = startsClosed xs := by
  induction xs generalizing o with
  | nil => rfl
  | cons x xs ih =>
    obtain ⟨hx, hxs⟩ := List.forall_mem_cons.1 hxs
    unfold faltersIn startsClosed
    cases hgives : x.givesToken with
    | true =>
      have hnext : (o.next false x).tokens ≠ [] := by
        obtain ⟨t, -, htokens, -⟩ := read_of_givesToken hgives o
        have hblank : x.kind ≠ .blank := by
          intro hk
          simp [Lexeme.givesToken, hk] at hgives
        refine tokens_next_ne_nil ?_
        rw [advance, if_neg hblank]
        exact tokens_bound_ne_nil false (by rw [htokens]; exact List.cons_ne_nil _ _)
      rw [falters_of_givesToken hgives, h.tokens, faltersIn_of_tokens hnext hxs,
        List.find?_cons_of_pos hgives]
      simp
    | false =>
      have hmisses : o.missesToken = false := by
        unfold missesToken
        rw [h.openCurly, h.openSquare]
        rfl
      rw [falters_of_not_givesToken hgives hx, hmisses, Bool.and_false, Bool.false_or,
        ih (h.next hgives hx false) hxs, List.find?_cons_of_neg (by simp [hgives])]
      rfl

end Outline

end BrightLint
