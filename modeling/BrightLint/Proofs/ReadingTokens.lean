import BrightLint.Proofs.Outline

/-!
What a lexeme does to the tokens of a reading. The end of a line may add a comma, any other lexeme
adds its token, and a bracket that closes takes the place of a comma before it.

* `scan_words`: every lexeme of a text is white space or counts as a word
* `Outline.Grows`: what a lexeme can do
* `Outline.grows_advance`, `Reading.grows_advance`: a lexeme that is not a directive does no more
  than that
-/

namespace BrightLint

/-! ### The words of a text -/

theorem lexemeRules_words : ∀ r ∈ lexemeRules, r.kind = .blank ∨ r.symbol ∈ Symbol.words := by
  decide +kernel

theorem Lexeme.first?_words {s : List Char} {x : Lexeme} (h : first? s = some x) :
    x.kind = .blank ∨ x.symbol ∈ Symbol.words := by
  obtain ⟨r, hr, hx⟩ := List.exists_of_findSome?_eq_some h
  unfold Rule.read? at hx
  obtain ⟨⟨t, p⟩, -, rfl⟩ := Option.map_eq_some_iff.1 hx
  exact lexemeRules_words r hr

/-- Every lexeme of a text is white space or counts as a word. -/
theorem scan_words (s : List Char) :
    ∀ x ∈ (scan s).1, x.kind = .blank ∨ x.symbol ∈ Symbol.words := by
  fun_induction scan s with
  | case1 => simp
  | case2 => simp
  | case3 c t x hx xs rest hscan ih =>
    rw [hscan] at ih
    intro y hy
    rcases List.mem_cons.1 hy with rfl | hy
    · exact Lexeme.first?_words hx
    · exact ih y hy

/-- A lexeme that is not a directive, and a word unless it is white space. -/
structure Lexeme.IsPlain (x : Lexeme) : Prop where
  not_directive : x.kind ≠ .directive
  blank_or_word : x.kind = .blank ∨ x.symbol ∈ Symbol.words

/-- Lexemes that have no token mean nothing for brackets, and the token has the symbol of its
lexeme. -/
theorem Lexeme.token?_cases (x : Lexeme) :
    x.kind = .comment ∧ x.token? = none ∨ ∃ t, x.token? = some t ∧ t.symbol = x.symbol := by
  unfold token?
  split
  · exact .inl ⟨‹_›, rfl⟩
  · right
    split <;> exact ⟨_, rfl, rfl⟩

/-- What a lexeme is about: a directive is about what its command names. -/
def Lexeme.topic (x : Lexeme) : Topic :=
  match x.role with
  | .directive command => .directive command
  | _ => .kind x.kind

theorem Lexeme.topic_of_ne {x : Lexeme} (hx : x.kind ≠ .directive) : x.topic = .kind x.kind := by
  unfold topic
  split
  · next hrole => exact absurd (x.kind_of_directive hrole) hx
  · rfl

/-! ### Tokens -/

namespace Outline

/-- Two outlines with the same tokens. -/
structure Agrees (o o' : Outline) : Prop where
  tokens : o'.tokens = o.tokens
  statementStart : o'.statementStart = o.statementStart

/-- What a lexeme can do to the tokens: nothing, add a word, or put a word in place of a comma. -/
structure Grows (o o' : Outline) : Prop where
  statementStart : o'.statementStart = o.statementStart
  tokens : o'.tokens = o.tokens ∨ ∃ t : Token, t.symbol ∈ Symbol.words ∧
    (o'.tokens = t :: o.tokens ∨
      ∃ c rest, c.symbol = .comma ∧ o.tokens = c :: rest ∧ o'.tokens = t :: rest)

section Tokens

variable {o o₁ o₂ : Outline} {t : Token} {lax : Bool}

theorem Agrees.grows (h : o.Agrees o₁) : o.Grows o₁ := ⟨h.statementStart, .inl h.tokens⟩

theorem Grows.trans_agrees (h : o.Grows o₁) (h' : o₁.Agrees o₂) : o.Grows o₂ :=
  ⟨h'.statementStart.trans h.statementStart, h'.tokens ▸ h.tokens⟩

theorem Agrees.trans_grows (h : o.Agrees o₁) (h' : o₁.Grows o₂) : o.Grows o₂ :=
  ⟨h'.statementStart.trans h.statementStart, h.tokens ▸ h'.tokens⟩

theorem grows_push (ht : t.symbol ∈ Symbol.words) : o.Grows (o.push t) :=
  ⟨rfl, .inr ⟨t, ht, .inl rfl⟩⟩

theorem agrees_turnTo (topic : Topic) (o : Outline) : o.Agrees (o.turnTo topic) := ⟨rfl, rfl⟩

theorem agrees_settle (o : Outline) : o.Agrees o.settle := by
  unfold settle
  split <;> exact ⟨rfl, rfl⟩

/-- Counting the functions in an object does nothing else. -/
theorem countFunction_eq (k : Kind) (o : Outline) :
    ∃ n, o.countFunction k = { o with inObject := n } := by
  unfold countFunction
  split
  · exact ⟨_, rfl⟩
  · split <;> exact ⟨_, rfl⟩

theorem agrees_countFunction (k : Kind) (o : Outline) : o.Agrees (o.countFunction k) := by
  obtain ⟨n, hn⟩ := countFunction_eq k o
  rw [hn]
  exact ⟨rfl, rfl⟩

theorem addedComma_mem_words (line : Nat) : (Token.addedComma line).symbol ∈ Symbol.words := by
  change Symbol.comma ∈ Symbol.words
  decide

/-- The end of a line adds a comma at most. -/
theorem grows_endLine (o : Outline) : o.Grows o.endLine := by
  unfold endLine addComma
  split
  · exact ⟨rfl, .inr ⟨_, addedComma_mem_words o.line, .inl rfl⟩⟩
  · exact Agrees.grows ⟨rfl, rfl⟩

/-- A token that is added takes the place of a comma at most. -/
theorem grows_dropComma (ht : t.symbol ∈ Symbol.words) : o.Grows (o.push t).dropComma := by
  unfold dropComma endsInComma push
  split
  · next hcomma =>
    cases htok : o.tokens with
    | nil => simp [htok] at hcomma
    | cons c rest =>
      have hc : c.symbol = .comma := by simpa [htok] using hcomma
      exact ⟨rfl, .inr ⟨t, ht, .inr ⟨c, rest, hc, htok, by simp⟩⟩⟩
  · exact grows_push ht

theorem grows_close {g : Outline → Outline} (hg : ∀ o : Outline, o.Agrees (g o))
    (ht : t.symbol ∈ Symbol.words) : o.Grows (close lax g (o.push t)) := by
  unfold close
  split
  · exact grows_push ht
  · exact (grows_dropComma ht).trans_agrees (hg _)

theorem grows_applyBoundary (b : Boundary) (ht : t.symbol ∈ Symbol.words) :
    o.Grows (applyBoundary lax b (o.push t)) := by
  cases b with
  | closeCurly =>
    exact grows_close (g := fun o => { o with openCurly := o.openCurly - 1 })
      (fun _ => ⟨rfl, rfl⟩) ht
  | closeSquare =>
    exact grows_close (g := fun o => { o with openSquare := o.openSquare - 1 })
      (fun _ => ⟨rfl, rfl⟩) ht
  | _ => exact (grows_push ht).trans_agrees ⟨rfl, rfl⟩

theorem grows_bound (ht : t.symbol ∈ Symbol.words) : o.Grows ((o.push t).bound lax) := by
  unfold bound
  split
  · exact (grows_push ht).trans_agrees (agrees_settle _)
  · exact (grows_applyBoundary _ ht).trans_agrees (agrees_settle _)

theorem bound_of_none (h : o.topic.bind Topic.boundary? = none) : o.bound lax = o.settle := by
  unfold bound
  rw [h]

theorem bound_of_some {b : Boundary} (h : o.topic.bind Topic.boundary? = some b) :
    o.bound lax = (applyBoundary lax b o).settle := by
  unfold bound
  rw [h]

theorem topic_endLine (o : Outline) : o.endLine.topic = o.topic := by
  unfold endLine addComma
  split <;> rfl

theorem topic_countFunction (k : Kind) (o : Outline) : (o.countFunction k).topic = o.topic := by
  obtain ⟨n, hn⟩ := countFunction_eq k o
  rw [hn]

theorem topic_read (x : Lexeme) (o : Outline) : (o.read x).topic = some x.topic := by
  unfold read Lexeme.topic
  cases hrole : x.role with
  | lineEnd => exact topic_endLine _
  | directive command => rfl
  | word =>
    unfold addToken
    simp only
    split <;> exact topic_countFunction _ _

theorem boundary?_read {x : Lexeme} (hx : x.kind ≠ .directive) (o : Outline) :
    (o.read x).topic.bind Topic.boundary? = x.kind.boundary? := by
  rw [topic_read, Lexeme.topic_of_ne hx]
  rfl

/-- **A lexeme** that is not a directive adds at most its own word, and drops at most the comma
before it. -/
theorem grows_advance {x : Lexeme} (lax : Bool) (hx : x.IsPlain) (o : Outline) :
    o.Grows (o.advance lax x) := by
  unfold advance
  split
  · exact Agrees.grows ⟨rfl, rfl⟩
  · next hblank =>
    unfold read
    cases hrole : x.role with
    | lineEnd =>
      have htopic : (o.turnTo (.kind x.kind)).endLine.topic.bind Topic.boundary? = none := by
        rw [topic_endLine, x.kind_of_lineEnd hrole]
        rfl
      simp only [bound_of_none htopic]
      have hline := grows_endLine (o.turnTo (.kind x.kind))
      exact (agrees_turnTo _ o).trans_grows (hline.trans_agrees (agrees_settle _))
    | directive command => exact absurd (x.kind_of_directive hrole) hx.not_directive
    | word =>
      have hcount := agrees_countFunction x.kind (o.turnTo (.kind x.kind))
      refine (agrees_turnTo (.kind x.kind) o).trans_grows (hcount.trans_grows ?_)
      unfold addToken
      rcases x.token?_cases with ⟨hcomment, ht⟩ | ⟨t, ht, hsymbol⟩ <;> simp only [ht]
      · have htopic : ((o.turnTo (.kind x.kind)).countFunction x.kind).topic.bind
            Topic.boundary? = none := by
          rw [topic_countFunction, hcomment]
          rfl
        rw [bound_of_none htopic]
        exact (agrees_settle _).grows
      · have hword := hx.blank_or_word.resolve_left hblank
        refine grows_bound ?_
        simpa only [hsymbol] using hword

end Tokens

end Outline

namespace Reading

theorem grows_advance {p : Profile} {x : Lexeme} {r r' : Reading} {b : Bool} (hx : x.IsPlain)
    (h : advance p x r = .ok b r') : r.outline.Grows r'.outline := by
  have hstep := steps_advance p x r
  rw [h] at hstep
  rw [show r'.outline = _ from hstep]
  exact Outline.grows_advance p.isLax hx r.outline

/-- The end of a text keeps the tokens. -/
theorem agrees_finish {p : Profile} {rest : List Char} {r r' : Reading}
    (h : finish p rest r = .ok () r') : r.outline.Agrees r'.outline := by
  have hleaves := leaves_finish p rest r
  rw [h] at hleaves
  rw [show r'.outline = _ from hleaves]
  split <;> exact ⟨rfl, rfl⟩

end Reading

end BrightLint
