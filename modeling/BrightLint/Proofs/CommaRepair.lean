import BrightLint.Proofs.LineByLine
import BrightLint.Proofs.StatementEnds

/-!
What the repair of commas leaves alone. The end of a line inside a collection may add a comma, and a
bracket that closes may drop the comma before it. Apart from commas, the tokens of a text are those
that its lexemes give one by one, each with its line; nothing is lost, doubled or moved, whatever is
open and whatever the directives have opened and closed. Without directives, curly and square
brackets the commas are the same as well.

* `Lexeme.ownTokens`, `ownTokens`: the tokens that lexemes give by themselves
* `withoutCommas_offers`: commas apart, no more than these are on offer
* `Outline.IsFlat`, `Outline.IsFlat.next`: without brackets a lexeme adds its own token only
* `Reading.read_commaRepair`: the tokens of a text
-/

namespace BrightLint

/-! ### Tokens of their own -/

/-- The token that a lexeme on a line gives by itself, if it is neither white space nor the end of
the line, nor a comment, nor a directive. -/
def Lexeme.ownTokens (line : Nat) (x : Lexeme) : List Token :=
  if x.givesToken then (x.token?.map fun t => { t with line := some line }).toList else []

/-- The tokens that lexemes give by themselves, the first of which stands on a line. -/
def ownTokens (line : Nat) : List Lexeme → List Token
  | [] => []
  | x :: xs => x.ownTokens line ++ ownTokens (if x.kind = .newLine then line + 1 else line) xs

namespace Lexeme

variable {x : Lexeme}

/-- Words are white space, comments, or give a token. -/
theorem IsCut.givesToken_of_word (h : x.IsCut) (hx : x.role = .word) :
    x.givesToken = (x.kind != .blank && x.kind != .comment) := by
  have hline : x.kind ≠ .newLine := Reading.kind_of_word hx
  have hdirective : x.kind ≠ .directive := fun hk => by
    obtain ⟨command, hcommand⟩ := h.role_of_directive hk
    rw [hx] at hcommand
    cases hcommand
  unfold givesToken
  rw [bne_iff_ne.2 hline, bne_iff_ne.2 hdirective, Bool.and_true, Bool.and_true]

/-- The token of a word is its own. -/
theorem IsCut.ownTokens_of_word (h : x.IsCut) (hx : x.role = .word) (hblank : x.kind ≠ .blank)
    (line : Nat) :
    x.ownTokens line = (x.token?.map fun t => { t with line := some line }).toList := by
  unfold ownTokens
  rw [h.givesToken_of_word hx]
  by_cases hcomment : x.kind = .comment
  · have hnone : x.token? = none := by
      unfold token?
      rw [if_pos hcomment]
    simp [hnone]
  · simp [hblank, hcomment]

theorem ownTokens_eq_nil (hx : x.givesToken = false) (line : Nat) : x.ownTokens line = [] := by
  rw [ownTokens, hx, if_neg Bool.false_ne_true]

/-- Ends of lines and directives have no token of their own. -/
theorem ownTokens_of_lineEnd (hx : x.role = .lineEnd) (line : Nat) : x.ownTokens line = [] :=
  ownTokens_eq_nil (by simp [givesToken, x.kind_of_lineEnd hx]) line

theorem ownTokens_of_directive {command : String} (hx : x.role = .directive command) (line : Nat) :
    x.ownTokens line = [] :=
  ownTokens_eq_nil (by simp [givesToken, x.kind_of_directive hx]) line

/-- What a lexeme has on offer is its own token, or a comma. -/
theorem IsCut.withoutCommas_offer (h : x.IsCut) (line : Nat) :
    withoutCommas (x.offer line) = withoutCommas (x.ownTokens line) := by
  unfold offer
  by_cases hblank : x.kind = .blank
  · rw [if_pos hblank, ownTokens_eq_nil (by simp [givesToken, hblank])]
  · rw [if_neg hblank]
    cases hrole : x.role with
    | lineEnd =>
      rw [ownTokens_of_lineEnd hrole]
      rfl
    | directive command => rw [ownTokens_of_directive hrole]
    | word => rw [h.ownTokens_of_word hrole hblank]

/-- The line after a lexeme can be told from its kind and from its text. -/
theorem IsCut.line_after (h : x.IsCut) (line : Nat) :
    line + x.text.count '\n' = if x.kind = .newLine then line + 1 else line := by
  obtain ⟨s, hs⟩ := h
  rcases first?_lineFeed_or hs with rfl | ⟨hk, hfeed⟩
  · rfl
  · rw [if_neg hk, List.count_eq_zero.2 hfeed, Nat.add_zero]

end Lexeme

/-- **Commas apart, lexemes offer their own tokens only.** -/
theorem withoutCommas_offers {xs : List Lexeme} (hxs : ∀ x ∈ xs, x.IsCut) (line : Nat) :
    withoutCommas (offers line xs) = withoutCommas (ownTokens line xs) := by
  induction xs generalizing line with
  | nil => rfl
  | cons x xs ih =>
    obtain ⟨hx, hxs⟩ := List.forall_mem_cons.1 hxs
    have hhead := hx.withoutCommas_offer line
    have htail := ih hxs (if x.kind = .newLine then line + 1 else line)
    unfold withoutCommas at hhead htail ⊢
    rw [offers, ownTokens, List.filter_append, List.filter_append, hx.line_after, hhead, htail]

/-! ### Texts without brackets -/

/-- Whether a kind of lexeme opens or closes a collection. -/
def Kind.isBracket (k : Kind) : Bool :=
  k == .openCurly || k == .closeCurly || k == .openSquare || k == .closeSquare

/-- What is no bracket may still end a statement or start a function. -/
theorem Kind.boundary?_of_plain {k : Kind} (h : k.isBracket = false) :
    k.boundary? = none ∨ k.boundary? = some .statementEnd ∨
      k.boundary? = some .openFunction := by
  revert h
  cases k <;> decide

namespace Outline

/-- No collection is open. -/
structure IsFlat (o : Outline) : Prop where
  openCurly : o.openCurly = 0
  openSquare : o.openSquare = 0

variable {o : Outline} {x : Lexeme}

/-- Outside collections a lexeme adds its own token, before it is taken as a boundary. -/
theorem IsFlat.tokens_read (ho : o.IsFlat) (hcut : x.IsCut) (hblank : x.kind ≠ .blank) :
    (o.read x).tokens = (x.ownTokens o.line).reverse ++ o.tokens := by
  unfold read
  cases hrole : x.role with
  | lineEnd =>
    have hwants : { o.turnTo (.kind x.kind) with statementEnded := true }.wantsComma = false := by
      simp [wantsComma, turnTo, ho.openCurly, ho.openSquare]
    simp only [endLine, addComma, hwants, Lexeme.ownTokens_of_lineEnd hrole]
    rfl
  | directive command =>
    rw [Lexeme.ownTokens_of_directive hrole]
    rfl
  | word =>
    have hcount := (agrees_countFunction x.kind (o.turnTo (.kind x.kind))).tokens
    have hline := (stays_countFunction x.kind (o.turnTo (.kind x.kind))).line
    rw [hcut.ownTokens_of_word hrole hblank]
    unfold addToken
    cases x.token? with
    | none => exact hcount
    | some t =>
      change _ :: _ = _ :: o.tokens
      rw [hcount, hline]
      rfl

/-- What is no bracket and no directive leaves tokens and brackets alone when it is taken as a
boundary. -/
theorem bound_of_plain (lax : Bool) (hdirective : x.kind ≠ .directive)
    (hbracket : x.kind.isBracket = false) (o : Outline) :
    ((o.read x).bound lax).tokens = (o.read x).tokens ∧
      ((o.read x).bound lax).openCurly = o.openCurly ∧
      ((o.read x).bound lax).openSquare = o.openSquare := by
  have hsettle : ∀ o : Outline, o.settle.tokens = o.tokens ∧ o.settle.openCurly = o.openCurly ∧
      o.settle.openSquare = o.openSquare := by
    intro o
    unfold settle
    split <;> exact ⟨rfl, rfl, rfl⟩
  have hmeans := boundary?_read hdirective o
  obtain ⟨hcurly, hsquare, -⟩ := open_read x o
  rw [← hcurly, ← hsquare]
  rcases Kind.boundary?_of_plain hbracket with hk | hk | hk
  · rw [bound_of_none (hmeans.trans hk)]
    exact hsettle _
  · rw [bound_of_some (hmeans.trans hk)]
    exact hsettle _
  · rw [bound_of_some (hmeans.trans hk)]
    exact hsettle _

/-- **Outside collections** a lexeme that is no bracket and no directive adds its own token, and
opens no collection. -/
theorem IsFlat.next (ho : o.IsFlat) (lax : Bool) (hcut : x.IsCut) (hdirective : x.kind ≠ .directive)
    (hbracket : x.kind.isBracket = false) :
    (o.next lax x).IsFlat ∧
      (o.next lax x).tokens = (x.ownTokens o.line).reverse ++ o.tokens := by
  have hadvance : (o.advance lax x).IsFlat ∧
      (o.advance lax x).tokens = (x.ownTokens o.line).reverse ++ o.tokens := by
    unfold advance
    split
    · next hblank =>
      rw [Lexeme.ownTokens_eq_nil (by simp [Lexeme.givesToken, hblank])]
      exact ⟨ho, rfl⟩
    · next hblank =>
      obtain ⟨htokens, hcurly, hsquare⟩ := bound_of_plain lax hdirective hbracket o
      exact ⟨⟨hcurly.trans ho.openCurly, hsquare.trans ho.openSquare⟩,
        htokens.trans (ho.tokens_read hcut hblank)⟩
  unfold Outline.next
  split
  · exact ⟨⟨hadvance.1.openCurly, hadvance.1.openSquare⟩, hadvance.2⟩
  · exact hadvance

/-- **Lexemes without brackets and directives** add their own tokens. -/
theorem IsFlat.tokens_after (ho : o.IsFlat) (lax : Bool) {xs : List Lexeme}
    (hcut : ∀ x ∈ xs, x.IsCut)
    (hxs : ∀ x ∈ xs, x.kind ≠ .directive ∧ x.kind.isBracket = false) :
    (o.after lax xs).tokens.reverse = o.tokens.reverse ++ ownTokens o.line xs := by
  induction xs generalizing o with
  | nil => exact (List.append_nil _).symm
  | cons x xs ih =>
    obtain ⟨hx, hcut⟩ := List.forall_mem_cons.1 hcut
    obtain ⟨⟨hdirective, hbracket⟩, hxs⟩ := List.forall_mem_cons.1 hxs
    obtain ⟨hflat, htokens⟩ := ho.next lax hx hdirective hbracket
    have hline : (o.next lax x).line = if x.kind = .newLine then o.line + 1 else o.line :=
      (stays_next lax x o).line
    have hrest := ih hflat hcut hxs
    rw [hline, htokens, List.reverse_append, List.reverse_reverse, List.append_assoc] at hrest
    exact hrest

end Outline

namespace Reading

/-- **The repair of commas touches commas only.** Whatever the settings and the text, if the reading
returns then its tokens are, commas apart, those that the lexemes of the text give by themselves, in
their order and with their lines. Without directives, curly and square brackets the commas are the
same, too. -/
theorem read_commaRepair (p : Profile) (text : List Char) (r : Reading)
    (h : (read p text).run fresh = .ok () r) :
    withoutCommas r.allTokens = withoutCommas (ownTokens 1 (scan text).1) ∧
      ((∀ x ∈ (scan text).1, x.kind ≠ .directive ∧ x.kind.isBracket = false) →
        r.allTokens = ownTokens 1 (scan text).1) := by
  obtain ⟨⟨⟩, r₁, hlex, hfinish⟩ := bind_ok
    (x := (scan text).1.forM (readLexeme p)) (s := fresh.start text) h
  have htokens : r.allTokens = r₁.allTokens :=
    congrArg List.reverse (finish_ok hfinish).2.1
  have hcut : ∀ x ∈ (scan text).1, x.IsCut := fun x hx => Lexeme.isCut_of_mem hx
  rw [htokens]
  constructor
  · have hcollects := (StandsAfter.readLexemes (List.append_nil _).symm hlex).tokens
    exact hcollects.complete.trans (withoutCommas_offers hcut 1)
  · intro hplain
    have hafter := congrArg (fun o => o.tokens.reverse) (outline_readLexemes hlex)
    have hflat : (fresh.start text).outline.IsFlat := ⟨rfl, rfl⟩
    exact hafter.trans (hflat.tokens_after p.isLax hcut hplain)

/-- A list whose first line wants a comma, and that has one before it is closed. -/
def mendedList : List Char := "x = [1\n2,]".toList

/-- A call with a comma, on two lines, one of which ends in a comment. -/
def plainCall : List Char := "f(1, 2) ' note\ny$ = 3".toList

/-- Two commas of the list are repaired, the comma of the call is kept. -/
theorem read_commaRepair_mendedList :
    (∃ r, (read ⟨.obj [], fun _ => true⟩ mendedList).run fresh = .ok () r ∧ r.problems = [] ∧
      r.allTokens ≠ ownTokens 1 (scan mendedList).1 ∧
      withoutCommas r.allTokens = withoutCommas (ownTokens 1 (scan mendedList).1)) ∧
    ∃ r, (read ⟨.obj [], fun _ => true⟩ plainCall).run fresh = .ok () r ∧ r.problems = [] ∧
      (∀ x ∈ (scan plainCall).1, x.kind ≠ .directive ∧ x.kind.isBracket = false) ∧
      r.allTokens = ownTokens 1 (scan plainCall).1 := by
  have hfacts : (returnsWith ⟨.obj [], fun _ => true⟩ mendedList
        (fun r => r.problems == [] && r.allTokens != ownTokens 1 (scan mendedList).1) &&
      (returnsWith ⟨.obj [], fun _ => true⟩ plainCall (·.problems == []) &&
        (scan plainCall).1.all fun x =>
          x.kind != .directive && x.kind.isBracket == false)) = true := by
    decide +kernel
  simp only [Bool.and_eq_true, List.all_eq_true, bne_iff_ne, beq_iff_eq] at hfacts
  obtain ⟨hlist, hcall, hkinds⟩ := hfacts
  obtain ⟨r, h, hr⟩ := exists_of_returnsWith hlist
  obtain ⟨r', h', hr'⟩ := exists_of_returnsWith hcall
  rw [Bool.and_eq_true, beq_iff_eq, bne_iff_ne] at hr
  exact ⟨⟨r, h, hr.1, hr.2, (read_commaRepair _ _ r h).1⟩,
    r', h', beq_iff_eq.1 hr', hkinds, (read_commaRepair _ _ r' h').2 hkinds⟩

end Reading

end BrightLint
