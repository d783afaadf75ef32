import BrightLint.Proofs.ReadingPlace
import BrightLint.Proofs.ScanLines
import BrightLint.Settings.Standard

/-!
How a reading goes through its text. The lexemes are pieces of the text, none of them empty, and put
together they are all that was read. Only the end of a line has a line feed in it, so the number of
the line, and how far the line has been read, can be told from the text alone. A token stands on the
line on which its lexeme starts, and the lines of tokens and warnings come in order.

* `Lexeme.first?_lineFeed_or`: a lexeme is a line feed or has none in it
* `scan_split`: cutting a text can be taken up at any lexeme
* `offers`: the tokens that lexemes can give, with their lines
* `Reading.StandsAfter`: what is known of a reading after some lexemes
* `Reading.Traversal`, `Reading.read_traverses`: what is known of a reading of a whole text
-/

namespace BrightLint

/-! ### Lexemes and line feeds -/

namespace Lexeme

theorem first?_nil : first? [] = none := by
  cases h : first? [] with
  | none => rfl
  | some x => exact absurd (List.prefix_nil.1 (first?_isPrefix h)) (first?_ne_nil h)

theorem lexemeRules_tail_kind : ∀ rule ∈ lexemeRules.tail, rule.kind ≠ .newLine := by
  decide +kernel

/-- The first rule reads line feeds only, and it is the only one for the ends of lines. -/
theorem kind_of_first? {c : Char} {s : List Char} {x : Lexeme} (hc : c ≠ '\n')
    (h : first? (c :: s) = some x) : x.kind ≠ .newLine := by
  have hcut : lexemeRules.tail.findSome? (·.read? (c :: s)) = some x := by
    have hfirst : Rule.read? ⟨.lineFeed, .newLine, .newLine, 0⟩ (c :: s) = none := by
      simp [Rule.read?, Shape.read?, hc]
    rw [first?, show lexemeRules = ⟨.lineFeed, .newLine, .newLine, 0⟩ :: lexemeRules.tail from rfl,
      List.findSome?_cons, hfirst] at h
    exact h
  obtain ⟨rule, hrule, hx⟩ := List.exists_of_findSome?_eq_some hcut
  obtain ⟨⟨t, q⟩, -, rfl⟩ := Option.map_eq_some_iff.1 hx
  exact lexemeRules_tail_kind rule hrule

/-- **A lexeme is a line feed or has none in it.** -/
theorem first?_lineFeed_or {s : List Char} {x : Lexeme} (h : first? s = some x) :
    x = .lineFeed ∨ x.kind ≠ .newLine ∧ '\n' ∉ x.text := by
  rcases s with _ | ⟨c, s⟩
  · rw [first?_nil] at h
    cases h
  by_cases hc : c = '\n'
  · subst hc
    rw [first?_lineFeed] at h
    exact .inl (Option.some.inj h).symm
  · refine .inr ⟨kind_of_first? hc h, ?_⟩
    by_cases hmem : '\n' ∈ c :: s
    · -- the lexeme lies on the first line, which is not empty
      obtain ⟨u, r, hs, hu⟩ := List.eq_append_cons_of_mem hmem
      have hne : u ≠ [] := by
        rintro rfl
        exact hc (List.cons.inj hs).1
      rw [hs, first?_line r hne] at h
      exact fun hin => hu ((first?_isPrefix h).subset hin)
    · exact fun hin => hmem ((first?_isPrefix h).subset hin)

end Lexeme

/-! ### Cutting a text -/

/-- The text of lexemes put together. -/
def joined (xs : List Lexeme) : List Char := xs.flatMap Lexeme.text

theorem joined_concat (xs : List Lexeme) (x : Lexeme) :
    joined (xs ++ [x]) = joined xs ++ x.text := by
  simp [joined]

/-- Cutting a text can be taken up at any lexeme. -/
theorem scan_split {s : List Char} {ys zs : List Lexeme} (h : (scan s).1 = ys ++ zs) :
    ∃ t, s = joined ys ++ t ∧ scan t = (zs, (scan s).2) := by
  induction ys generalizing s with
  | nil => exact ⟨s, rfl, Prod.ext h rfl⟩
  | cons y ys ih =>
    cases hx : Lexeme.first? s with
    | none =>
      rw [scan_of_none hx] at h
      cases h
    | some x =>
      rw [scan_of_some hx] at h
      obtain ⟨rfl, hrest⟩ := List.cons.inj h
      obtain ⟨t, ht, hscan⟩ := ih hrest
      refine ⟨t, ?_, by rw [hscan, scan_of_some hx]⟩
      rw [joined, List.flatMap_cons, List.append_assoc, ← joined, ← ht]
      exact (List.prefix_iff_eq_append.1 (Lexeme.first?_isPrefix hx)).symm

/-- The first lexeme of a text that is cut. -/
theorem first?_of_scan {s : List Char} {x : Lexeme} {xs : List Lexeme} {rest : List Char}
    (h : scan s = (x :: xs, rest)) : Lexeme.first? s = some x := by
  cases hx : Lexeme.first? s with
  | none =>
    rw [scan_of_none hx] at h
    cases h
  | some y =>
    rw [scan_of_some hx] at h
    cases h
    rfl

/-- Where no lexeme was cut off, none starts. -/
theorem first?_of_scan_nil {s rest : List Char} (h : scan s = ([], rest)) :
    s = rest ∧ Lexeme.first? s = none := by
  cases hx : Lexeme.first? s with
  | none =>
    rw [scan_of_none hx] at h
    cases h
    exact ⟨rfl, rfl⟩
  | some y =>
    rw [scan_of_some hx] at h
    cases h

/-- The lexemes of a text and what is left are the text. -/
theorem joined_scan (s : List Char) :
    joined (scan s).1 ++ (scan s).2 = s ∧ Lexeme.first? (scan s).2 = none := by
  obtain ⟨t, ht, hscan⟩ := scan_split (s := s) (List.append_nil (scan s).1).symm
  obtain ⟨rfl, hnone⟩ := first?_of_scan_nil hscan
  exact ⟨ht.symm, hnone⟩

/-- The lexemes of a text that is cut up to its end are the text. -/
theorem joined_of_scan {s : List Char} (h : (scan s).2 = []) : joined (scan s).1 = s := by
  have hjoin := (joined_scan s).1
  rwa [h, List.append_nil] at hjoin

theorem first?_of_mem {s : List Char} {ys zs : List Lexeme} {x : Lexeme}
    (h : (scan s).1 = ys ++ x :: zs) : ∃ t, Lexeme.first? t = some x := by
  obtain ⟨t, -, hscan⟩ := scan_split h
  exact ⟨t, first?_of_scan hscan⟩

/-! ### Lines -/

/-- The line on which a text ends: what stands after its last line feed. -/
def Text.openLine (s : List Char) : List Char := (s.reverse.takeWhile (· != '\n')).reverse

theorem Text.openLine_lineFeed (s : List Char) : openLine (s ++ ['\n']) = [] := by
  simp [openLine]

theorem Text.openLine_append {t : List Char} (ht : '\n' ∉ t) (s : List Char) :
    openLine (s ++ t) = openLine s ++ t := by
  have hall : ∀ c ∈ t.reverse, (c != '\n') = true := by
    intro c hc
    simp only [bne_iff_ne, ne_eq]
    rintro rfl
    exact ht (List.mem_reverse.1 hc)
  simp only [openLine, List.reverse_append, List.takeWhile_append_of_pos hall, List.reverse_reverse]

/-! ### Tokens -/

/-- The token that a lexeme on a line can give: its own, or a comma at the end of the line. -/
def Lexeme.offer (line : Nat) (x : Lexeme) : List Token :=
  if x.kind = .blank then []
  else match x.role with
    | .lineEnd => [.addedComma line]
    | .directive _ => []
    | .word => (x.token?.map fun t => { t with line := some line }).toList

/-- The tokens that lexemes can give, the first of which starts on a line. -/
def offers (line : Nat) : List Lexeme → List Token
  | [] => []
  | x :: xs => x.offer line ++ offers (line + x.text.count '\n') xs

/-- The tokens that are never dropped. -/
def withoutCommas (ts : List Token) : List Token := ts.filter (·.symbol != .comma)

/-- Both tokens have a line, and the second does not stand before the first. -/
def Token.LineLe (t u : Token) : Prop := ∃ m n, t.line = some m ∧ u.line = some n ∧ m ≤ n

theorem offers_concat (line : Nat) (xs : List Lexeme) (x : Lexeme) :
    offers line (xs ++ [x]) = offers line xs ++ x.offer (line + (joined xs).count '\n') := by
  induction xs generalizing line with
  | nil => simp [offers, joined]
  | cons y xs ih =>
    rw [List.cons_append, offers, ih, offers, List.append_assoc, joined, joined, List.flatMap_cons,
      List.count_append, Nat.add_assoc]

theorem Lexeme.line_of_mem_offer {line : Nat} {x : Lexeme} {t : Token} (h : t ∈ x.offer line) :
    t.line = some line := by
  unfold offer at h
  split at h
  · cases h
  · split at h
    · rw [List.mem_singleton.1 h]
      rfl
    · cases h
    · obtain ⟨u, -, rfl⟩ := Option.map_eq_some_iff.1 (Option.mem_toList.1 h)
      rfl

theorem le_of_mem_offers {line : Nat} {xs : List Lexeme} {t : Token} (h : t ∈ offers line xs) :
    ∃ n, t.line = some n ∧ line ≤ n := by
  induction xs generalizing line with
  | nil => cases h
  | cons x xs ih =>
    rcases List.mem_append.1 h with h | h
    · exact ⟨line, Lexeme.line_of_mem_offer h, Nat.le_refl _⟩
    · obtain ⟨n, hn, hle⟩ := ih h
      exact ⟨n, hn, Nat.le_trans (Nat.le_add_right _ _) hle⟩

/-- The lines of the tokens come in order. -/
theorem pairwise_offers (line : Nat) (xs : List Lexeme) :
    (offers line xs).Pairwise Token.LineLe := by
  induction xs generalizing line with
  | nil => exact List.Pairwise.nil
  | cons x xs ih =>
    refine List.pairwise_append.2 ⟨?_, ih _, ?_⟩
    · refine List.pairwise_of_forall_mem_list fun t ht u hu => ?_
      exact ⟨line, line, Lexeme.line_of_mem_offer ht, Lexeme.line_of_mem_offer hu, Nat.le_refl _⟩
    · intro t ht u hu
      obtain ⟨n, hn, hle⟩ := le_of_mem_offers hu
      exact ⟨line, n, Lexeme.line_of_mem_offer ht, hn, Nat.le_trans (Nat.le_add_right _ _) hle⟩

namespace Outline

/-- The tokens are some of those on offer, and only commas are left out. -/
structure Collects (ts : List Token) (o : Outline) : Prop where
  sublist : o.tokens.reverse.Sublist ts
  complete : withoutCommas o.tokens.reverse = withoutCommas ts

variable {o o' : Outline} {ts : List Token}

theorem Collects.of_tokens (h : o.Collects ts) (ht : o'.tokens = o.tokens) : o'.Collects ts :=
  ⟨ht ▸ h.sublist, ht ▸ h.complete⟩

theorem Collects.push (h : o.Collects ts) {t : Token} (ht : o'.tokens = t :: o.tokens) :
    o'.Collects (ts ++ [t]) := by
  constructor
  · rw [ht, List.reverse_cons]
    exact h.sublist.append (List.Sublist.refl _)
  · rw [ht, List.reverse_cons, withoutCommas, withoutCommas, List.filter_append, List.filter_append]
    exact congrArg (· ++ _) h.complete

theorem Collects.pass (h : o.Collects ts) {t : Token} (ht : t.symbol = .comma) :
    o.Collects (ts ++ [t]) := by
  refine ⟨h.sublist.trans (List.sublist_append_left _ _), ?_⟩
  rw [h.complete, withoutCommas, withoutCommas, List.filter_append]
  simp [ht]

theorem Collects.drop (h : o.Collects ts) {a c : Token} {rest : List Token} (hc : c.symbol = .comma)
    (ho : o.tokens = a :: c :: rest) (ho' : o'.tokens = a :: rest) : o'.Collects ts := by
  obtain ⟨hsub, hcomplete⟩ := h
  rw [ho] at hsub hcomplete
  constructor
  · refine List.Sublist.trans ?_ hsub
    rw [ho', List.reverse_sublist]
    exact ((List.Sublist.refl rest).cons c).cons_cons a
  · rw [← hcomplete, ho']
    simp [withoutCommas, hc]

theorem tokens_settle (o : Outline) : o.settle.tokens = o.tokens := (agrees_settle o).tokens

/-- A bracket that closes drops a comma at most. -/
theorem Collects.close (h : o.Collects ts) {lax : Bool} {g : Outline → Outline}
    (hg : ∀ o : Outline, (g o).tokens = o.tokens) : (o.close lax g).Collects ts := by
  unfold Outline.close
  split
  · exact h
  · refine Collects.of_tokens ?_ (hg _)
    unfold dropComma
    split
    · next hends =>
      unfold endsInComma at hends
      rcases htok : o.tokens with _ | ⟨a, _ | ⟨c, rest⟩⟩
      · simp [htok] at hends
      · simp [htok] at hends
      · exact h.drop (by simpa [htok] using hends) htok (by simp)
    · exact h

theorem Collects.bound (h : o.Collects ts) (lax : Bool) : (o.bound lax).Collects ts := by
  unfold Outline.bound
  split
  · exact h.of_tokens (tokens_settle o)
  · next b _ =>
    refine Collects.of_tokens ?_ (tokens_settle _)
    cases b with
    | closeCurly =>
      exact h.close (g := fun o => { o with openCurly := o.openCurly - 1 }) fun _ => rfl
    | closeSquare =>
      exact h.close (g := fun o => { o with openSquare := o.openSquare - 1 }) fun _ => rfl
    | _ => exact h.of_tokens rfl

/-- The line and the problems are the same. -/
structure Stays (o o' : Outline) : Prop where
  line : o'.line = o.line
  problems : o'.problems = o.problems

theorem Stays.refl (o : Outline) : o.Stays o := ⟨rfl, rfl⟩

theorem Stays.trans {o₁ : Outline} (h : o.Stays o₁) (h' : o₁.Stays o') : o.Stays o' :=
  ⟨h'.line.trans h.line, h'.problems.trans h.problems⟩

theorem stays_countFunction (k : Kind) (o : Outline) : o.Stays (o.countFunction k) := by
  unfold countFunction
  split
  · exact .refl o
  · split <;> exact ⟨rfl, rfl⟩

theorem Collects.read (h : o.Collects ts) {x : Lexeme} (hx : x.kind ≠ .blank) :
    (o.read x).Collects (ts ++ x.offer o.line) := by
  unfold Outline.read Lexeme.offer
  rw [if_neg hx]
  cases x.role with
  | lineEnd =>
    unfold endLine addComma
    simp only
    split
    · exact h.push rfl
    · exact (h.pass (t := .addedComma o.line) rfl).of_tokens rfl
  | directive command =>
    rw [List.append_nil]
    exact h.of_tokens rfl
  | word =>
    have hcount := (agrees_countFunction x.kind (o.turnTo (.kind x.kind))).tokens
    have hline := (stays_countFunction x.kind (o.turnTo (.kind x.kind))).line
    unfold addToken
    cases x.token? with
    | none =>
      simp only [Option.map_none, Option.toList_none, List.append_nil]
      exact h.of_tokens hcount
    | some t =>
      simp only [Option.map_some, Option.toList_some, hline]
      exact h.push (congrArg _ hcount)

/-- **A lexeme** gives its token, if any, and may take away a comma. -/
theorem Collects.next (h : o.Collects ts) (lax : Bool) (x : Lexeme) :
    (o.next lax x).Collects (ts ++ x.offer o.line) := by
  have hadvance : (o.advance lax x).Collects (ts ++ x.offer o.line) := by
    unfold advance
    split
    · next hx =>
      rw [Lexeme.offer, if_pos hx, List.append_nil]
      exact h
    · next hx => exact (h.read hx).bound lax
  unfold Outline.next
  split
  · exact hadvance.of_tokens rfl
  · exact hadvance

theorem stays_settle (o : Outline) : o.Stays o.settle := by
  unfold settle
  split <;> exact ⟨rfl, rfl⟩

theorem stays_close {lax : Bool} {g : Outline → Outline} (hg : ∀ o : Outline, o.Stays (g o))
    (o : Outline) : o.Stays (o.close lax g) := by
  have hdrop : o.Stays o.dropComma := by
    unfold dropComma
    split <;> exact ⟨rfl, rfl⟩
  unfold Outline.close
  split
  · exact .refl o
  · exact hdrop.trans (hg _)

theorem stays_bound (lax : Bool) (o : Outline) : o.Stays (o.bound lax) := by
  unfold Outline.bound
  split
  · exact stays_settle o
  · next b _ =>
    refine Stays.trans ?_ (stays_settle _)
    cases b with
    | closeCurly =>
      exact stays_close (g := fun o => { o with openCurly := o.openCurly - 1 })
        (fun _ => ⟨rfl, rfl⟩) o
    | closeSquare =>
      exact stays_close (g := fun o => { o with openSquare := o.openSquare - 1 })
        (fun _ => ⟨rfl, rfl⟩) o
    | _ => exact ⟨rfl, rfl⟩

/-- An outline on the line on which a lexeme ends. -/
def movedOver (x : Lexeme) (o : Outline) : Outline :=
  { o with line := if x.kind = Kind.newLine then o.line + 1 else o.line }

theorem stays_read (x : Lexeme) (o : Outline) : (o.movedOver x).Stays (o.read x) := by
  unfold Outline.read movedOver
  cases hrole : x.role with
  | lineEnd =>
    rw [if_pos (x.kind_of_lineEnd hrole)]
    unfold endLine addComma
    simp only
    split <;> exact ⟨rfl, rfl⟩
  | directive command =>
    rw [if_neg (by rw [x.kind_of_directive hrole]; decide)]
    exact ⟨rfl, rfl⟩
  | word =>
    rw [if_neg (Reading.kind_of_word hrole)]
    have hcount := stays_countFunction x.kind (o.turnTo (.kind x.kind))
    simp only
    unfold addToken
    cases x.token? with
    | none => exact ⟨hcount.line, hcount.problems⟩
    | some t => exact ⟨hcount.line, hcount.problems⟩

/-- Only the end of a line counts the line. -/
theorem stays_advance (lax : Bool) (x : Lexeme) (o : Outline) :
    (o.movedOver x).Stays (o.advance lax x) := by
  unfold advance
  split
  · next hx =>
    rw [movedOver, if_neg (by rw [hx]; decide)]
    exact .refl o
  · exact (stays_read x o).trans (stays_bound lax _)

theorem stays_next (lax : Bool) (x : Lexeme) (o : Outline) :
    (o.movedOver x).Stays (o.next lax x) := by
  unfold Outline.next
  split
  · exact (stays_advance lax x o).trans ⟨rfl, rfl⟩
  · exact stays_advance lax x o

end Outline

/-! ### Loops -/

section Loops

variable {σ β : Type} {f : β → EStateM Fault σ Unit} {xs ys zs : List β} {s s' : σ}

/-- A loop over the first items is where the whole loop starts. -/
theorem forM_append_ok (h : (ys ++ zs).forM f s = .ok () s') :
    ∃ s₁, ys.forM f s = .ok () s₁ ∧ zs.forM f s₁ = .ok () s' := by
  rw [List.forM_eq_forM, List.forM_append] at h
  obtain ⟨⟨⟩, s₁, hfirst, hrest⟩ := bind_ok h
  exact ⟨s₁, hfirst, hrest⟩

/-- What one round of a loop keeps, with the items done so far, the whole loop keeps. -/
theorem forM_invariant {I : List β → σ → Prop}
    (hstep : ∀ ys x zs t t', xs = ys ++ x :: zs → I ys t → f x t = .ok () t' → I (ys ++ [x]) t')
    (hstart : I [] s) (h : xs.forM f s = .ok () s') : I xs s' := by
  -- the items done come before those still to do
  have hrun : ∀ (zs ys : List β) (t : σ), xs = ys ++ zs → I ys t → zs.forM f t = .ok () s' →
      I xs s' := by
    intro zs
    induction zs with
    | nil =>
      rintro ys t hxs hI h
      cases h
      rwa [hxs, List.append_nil]
    | cons x zs ih =>
      rintro ys t hxs hI h
      obtain ⟨⟨⟩, t₁, hone, hrest⟩ := bind_ok h
      refine ih (ys ++ [x]) t₁ ?_ (hstep ys x zs t t₁ hxs hI hone) hrest
      rw [hxs, List.append_assoc]
      rfl
  exact hrun xs [] s rfl hstart h

end Loops

namespace Reading

open Lint

/-! ### Lexemes one after the other -/

/-- What is known of a reading of a text after some of its lexemes. -/
structure StandsAfter (text : List Char) (ys : List Lexeme) (r : Reading) : Prop where
  text_eq : r.text = text
  position : r.position = (joined ys).length
  line : r.line = 1 + (joined ys).count '\n'
  lineLength : r.lineLength = (Text.openLine (joined ys)).length
  tokens : r.outline.Collects (offers 1 ys)
  warnings : r.warnings.Pairwise fun later w => w.line ≤ later.line
  warnings_le : ∀ w ∈ r.warnings, w.line ≤ r.line
  problems : r.problems = []

theorem standsAfter_start (text : List Char) : (fresh.start text).StandsAfter text [] :=
  ⟨rfl, rfl, rfl, rfl, ⟨List.Sublist.refl _, rfl⟩, List.Pairwise.nil, by simp [start], rfl⟩

/-- New warnings, the latest of which come first, stand on the line reached. -/
theorem ordered_append {ws vs : List Warning} {line : Nat}
    (hv : vs.Pairwise fun later w => w.line ≤ later.line) (hle : ∀ w ∈ vs, w.line ≤ line)
    (hw : ∀ w ∈ ws, w.line = line) :
    (ws ++ vs).Pairwise fun later w => w.line ≤ later.line := by
  refine List.pairwise_append.2 ⟨?_, hv, ?_⟩
  · refine List.pairwise_of_forall_mem_list fun v hv' w hw' => ?_
    exact Nat.le_of_eq ((hw w hw').trans (hw v hv').symm)
  · intro v hv' w hw'
    rw [hw v hv']
    exact hle w hw'

/-- What a lexeme does to a reading, with the statement that it may end. -/
theorem readLexeme_ok {p : Profile} {x : Lexeme} {r r' : Reading}
    (h : readLexeme p x r = .ok () r') :
    r'.outline = r.outline.next p.isLax x ∧ Passes x r r' := by
  have hout := steps_readLexeme p x r
  rw [h] at hout
  refine ⟨hout, ?_⟩
  obtain ⟨ended, r₁, hadvance, h⟩ := bind_ok h
  obtain ⟨ht, hp, hl, hk, hw⟩ := passes_advance hadvance
  cases ended with
  | false =>
    cases h
    exact ⟨ht, hp, hl, hk, hw⟩
  | true =>
    cases h
    exact ⟨ht, hp, hl, hk, hw⟩

/-- **One lexeme** more. -/
theorem StandsAfter.readLexeme {p : Profile} {x : Lexeme} {text : List Char} {ys : List Lexeme}
    {r r' : Reading} (hr : r.StandsAfter text ys)
    (hx : x = .lineFeed ∨ x.kind ≠ .newLine ∧ '\n' ∉ x.text)
    (h : Reading.readLexeme p x r = .ok () r') : r'.StandsAfter text (ys ++ [x]) := by
  obtain ⟨hout, htext, hpos, hlen, -, ws, hws, hw⟩ := readLexeme_ok h
  have hstays := Outline.stays_next p.isLax x r.outline
  rw [← hout] at hstays
  have hlines : r'.line = if x.kind = .newLine then r.line + 1 else r.line := hstays.line
  have hle : r.line ≤ r'.line := by
    rw [hlines]
    split <;> omega
  refine ⟨htext.trans hr.text_eq, ?_, ?_, ?_, ?_, ?_, ?_, hstays.problems.trans hr.problems⟩
  · rw [hpos, hr.position, joined_concat, List.length_append]
    rfl
  · rw [hlines, hr.line, joined_concat, List.count_append]
    rcases hx with rfl | ⟨hk, hx⟩
    · rfl
    · rw [if_neg hk, List.count_eq_zero.2 hx, Nat.add_zero]
  · rw [hlen, hr.lineLength, joined_concat]
    rcases hx with rfl | ⟨hk, hx⟩
    · exact (congrArg List.length (Text.openLine_lineFeed _)).symm
    · rw [if_neg hk, Text.openLine_append hx, List.length_append]
  · rw [hout, offers_concat, ← hr.line]
    exact hr.tokens.next p.isLax x
  · rw [hws]
    exact ordered_append hr.warnings hr.warnings_le fun w h => (hw w h).1
  · rw [hws]
    intro w hw'
    rcases List.mem_append.1 hw' with hw' | hw'
    · rw [(hw w hw').1]
      exact hle
    · exact Nat.le_trans (hr.warnings_le w hw') hle

/-- **The first lexemes of a text.** -/
theorem StandsAfter.readLexemes {p : Profile} {text : List Char} {ys zs : List Lexeme} {r : Reading}
    (hsplit : (scan text).1 = ys ++ zs)
    (h : ys.forM (Reading.readLexeme p) (fresh.start text) = .ok () r) : r.StandsAfter text ys := by
  refine forM_invariant (I := fun ys r => r.StandsAfter text ys) ?_ (standsAfter_start text) h
  intro us x vs s s' hys hs hone
  rw [hys, List.append_assoc] at hsplit
  obtain ⟨t, hfirst⟩ := first?_of_mem hsplit
  exact hs.readLexeme (Lexeme.first?_lineFeed_or hfirst) hone

/-- What is left to read is what the lexemes leave of the text. -/
theorem StandsAfter.rest {text t : List Char} {ys : List Lexeme} {r : Reading}
    (hr : r.StandsAfter text ys) (ht : text = joined ys ++ t) : r.rest = t := by
  unfold Layout.rest Span.onward
  rw [hr.text_eq, hr.position, ht, Span.place_ofNat (by simp)]
  simp

/-! ### The end of a text -/

/-- The last line is checked once what could not be read is recorded. -/
theorem finish_eq (p : Profile) (rest : List Char) (r : Reading) :
    finish p rest r = (do
      checkLine p
      modify fun r => { r with statements := r.statements + 1 } : Lint Unit)
        (if rest.isEmpty then r else r.recordUnmatched) := by
  unfold finish
  cases rest <;> rfl

theorem rests_record (rest : List Char) (r : Reading) :
    r.Rests 0 (if rest.isEmpty then r else r.recordUnmatched) := by
  split
  · exact .refl r
  · exact .of_eq rfl

/-- The end of a text leaves the place alone, and records what could not be read. -/
theorem finish_ok {p : Profile} {rest : List Char} {r r' : Reading}
    (h : finish p rest r = .ok () r') :
    r.Rests 1 r' ∧ r'.tokens = r.tokens ∧
      r'.problems = (if rest.isEmpty then r else r.recordUnmatched).problems := by
  have hout := leaves_finish p rest r
  rw [h] at hout
  have hout : r'.outline = _ := hout
  refine ⟨?_, (agrees_finish h).tokens, congrArg Outline.problems hout⟩
  rw [finish_eq] at h
  obtain ⟨⟨⟩, r₁, hcheck, h⟩ := bind_ok h
  cases h
  have hcount : r₁.Rests 0 { r₁ with statements := r₁.statements + 1 } :=
    .of_eq rfl
  exact ((rests_record rest r).trans ((steady_checkLine p).of_ok hcheck)).trans hcount

/-- How a text has been read by the time its reading ends. -/
structure Traversal (p : Profile) (text : List Char) (r : Reading) : Prop where
  /-- Every lexeme takes something of the text, -/
  solid : ∀ x ∈ (scan text).1, x.text ≠ []
  /-- and together they are what has been read. -/
  pieces : r.position = (joined (scan text).1).length ∧
    joined (scan text).1 = text.take (joined (scan text).1).length
  /-- Either all has been read, or no lexeme starts at the place reached, and the one problem names
  what is left of the line. -/
  ending : r.problems = [] ∧ r.position = text.length ∨
    ∃ rest, rest ≠ [] ∧ text = joined (scan text).1 ++ rest ∧ Lexeme.first? rest = none ∧
      r.problems = [.unmatchedQuote (String.ofList (Text.firstLine rest)) r.line]
  /-- After any lexemes the line can be told from the text, and the next lexeme is the first of what
  is left. -/
  boundaries : ∀ ys zs, (scan text).1 = ys ++ zs → ∃ s,
    (ys.forM (readLexeme p)).run (fresh.start text) = .ok () s ∧ s.StandsAfter text ys ∧
      s.rest = joined zs ++ (scan text).2 ∧ Lexeme.first? s.rest = zs.head?
  /-- The same holds at the end. -/
  line : r.line = 1 + (joined (scan text).1).count '\n'
  lineLength : r.lineLength = (Text.openLine (joined (scan text).1)).length
  /-- Tokens stand on the line on which their lexemes start, added commas on the line that ends. -/
  tokens : r.outline.Collects (offers 1 (scan text).1)
  /-- Lines come in order. -/
  tokenLines : r.allTokens.Pairwise Token.LineLe
  warningLines : (r.warnings.reverse.map Warning.line).Pairwise (· ≤ ·)

/-- **A reading goes through its text** lexeme by lexeme, and knows at all times where it is. -/
theorem read_traverses (p : Profile) (text : List Char) (r : Reading)
    (h : (read p text).run fresh = .ok () r) : Traversal p text r := by
  obtain ⟨hjoin, hnone⟩ := joined_scan text
  have hbody : read p text fresh = (do
      (scan text).1.forM (readLexeme p)
      finish p (scan text).2 : Lint Unit) (fresh.start text) := rfl
  obtain ⟨⟨⟩, r₁, hlex, hfinish⟩ := bind_ok (hbody.symm.trans h)
  have hstands := StandsAfter.readLexemes (List.append_nil _).symm hlex
  obtain ⟨⟨-, hpos, hline, hlen, -, ws, hws, hw⟩, htokens, hproblems⟩ := finish_ok hfinish
  have hposition : r.position = (joined (scan text).1).length := hpos.trans hstands.position
  have hrest₁ : r₁.rest = (scan text).2 := hstands.rest hjoin.symm
  have hcollects : r.outline.Collects (offers 1 (scan text).1) := hstands.tokens.of_tokens htokens
  refine ⟨?_, ⟨hposition, ?_⟩, ?_, ?_, hline.trans hstands.line, hlen.trans hstands.lineLength,
    hcollects, ?_, ?_⟩
  · intro x hx
    obtain ⟨ys, zs, hsplit⟩ := List.append_of_mem hx
    obtain ⟨t, ht⟩ := first?_of_mem hsplit
    exact Lexeme.first?_ne_nil ht
  · exact List.prefix_iff_eq_take.1 ⟨_, hjoin⟩
  · by_cases hnil : (scan text).2 = []
    · rw [hnil, List.append_nil] at hjoin
      refine .inl ⟨?_, by rw [hposition, hjoin]⟩
      rw [hproblems, hnil]
      exact hstands.problems
    · refine .inr ⟨(scan text).2, hnil, hjoin.symm, hnone, ?_⟩
      rw [hproblems, if_neg (by simpa using hnil), recordUnmatched, hstands.problems, hrest₁, hline]
      rfl
  · intro ys zs hsplit
    obtain ⟨s, hys, -⟩ := forM_append_ok (hsplit ▸ hlex)
    have hs := StandsAfter.readLexemes hsplit hys
    obtain ⟨t, ht, hscan⟩ := scan_split hsplit
    refine ⟨s, hys, hs, ?_, ?_⟩ <;> rw [hs.rest ht]
    · have hleft := (joined_scan t).1
      rw [hscan] at hleft
      exact hleft.symm
    · cases zs with
      | nil => exact (first?_of_scan_nil hscan).2
      | cons z zs => exact first?_of_scan hscan
  · exact (pairwise_offers 1 _).sublist hcollects.sublist
  · rw [List.pairwise_map, List.pairwise_reverse, hws]
    exact ordered_append hstands.warnings hstands.warnings_le fun w h => (hw w h).1

/-- Whether the reading of a text returns, and with what. -/
def returnsWith (p : Profile) (text : List Char) (q : Reading → Bool) : Bool :=
  match (read p text).run fresh with
  | .ok () r => q r
  | .error .. => false

theorem exists_of_returnsWith {p : Profile} {text : List Char} {q : Reading → Bool}
    (h : returnsWith p text q = true) : ∃ r, (read p text).run fresh = .ok () r ∧ q r = true := by
  unfold returnsWith at h
  split at h
  · next r hr => exact ⟨r, hr, h⟩
  · cases h

/-- An object over two lines, the first of which ends in a comma that is not written, and then a
quotation mark without its partner. -/
def openQuote : List Char := "x = \x7ba: 1\nb: 2\x7d\nprint \"y".toList

theorem read_traverses_openQuote :
    ∃ r, (read ⟨Settings.standard, fun _ => true⟩ openQuote).run fresh = .ok () r ∧
      Traversal ⟨Settings.standard, fun _ => true⟩ openQuote r ∧ r.position = 22 ∧
      r.problems = [.unmatchedQuote "\"y" 3] ∧ r.warnings.reverse.map Warning.line = [1, 3, 3] := by
  have hends : returnsWith ⟨Settings.standard, fun _ => true⟩ openQuote (fun r =>
      r.position == 22 && (r.problems == [.unmatchedQuote "\"y" 3] &&
        r.warnings.reverse.map Warning.line == [1, 3, 3])) = true := by
    decide +kernel
  obtain ⟨r, hr, hq⟩ := exists_of_returnsWith hends
  simp only [Bool.and_eq_true, beq_iff_eq] at hq
  exact ⟨r, hr, read_traverses _ _ r hr, hq⟩

end Reading

end BrightLint
