import BrightLint.Proofs.LookingBack
import BrightLint.Proofs.ScanBreaks
import BrightLint.Proofs.StatementEnds
import Mathlib.Data.List.Forall2

/-!
Directives are comments. What a directive is about is looked up by its command, among the kinds of
lexemes that are boundaries as well. So a directive can be exchanged for an ordinary comment without
effect on the code exactly if its command is not the name of a boundary. If it is, the directive
opens or closes a bracket or a function that is not there, or ends a statement.

* `Rewording`: an exchange of the body of a directive for that of an ordinary comment
* `Rewording.scan_reworded`: no other lexeme changes
* `Lexeme.IsIdle`: lexemes that mean nothing for the code
* `Reading.Abreast`: readings at the same place with the same code
* `Reading.reworded_iff`: which directives are comments
-/

namespace BrightLint

/-! ### Rewording a directive -/

/-- The body of a directive in a text, and that of an ordinary comment of the same length. -/
structure Rewording (command : String) where
  before : List Lexeme
  directive : Lexeme
  rest : List Lexeme
  mark : List Char
  body : List Char
  remark : List Char
  after : List Char
  /-- The directive is a lexeme of the text. -/
  scan_text : (scan (joined before ++ (mark ++ (body ++ after)))).1 = before ++ directive :: rest
  text_directive : directive.text = mark ++ body
  role_directive : directive.role = .directive command
  isMark : afterMark? mark = some []
  /-- What stands in its place is a comment and no directive. -/
  length_remark : remark.length = body.length
  isInline : '\n' ∉ remark
  isRemark : startsRemark (mark ++ remark) = true
  not_directive : readDirective? (mark ++ remark) = none

namespace Rewording

variable {command : String} (w : Rewording command)

/-- The text with the directive. -/
def text : List Char := joined w.before ++ (w.mark ++ (w.body ++ w.after))

/-- The text with an ordinary comment. -/
def reworded : List Char := joined w.before ++ (w.mark ++ (w.remark ++ w.after))

/-- The comment. -/
def comment : Lexeme := ⟨w.mark ++ w.remark, .plain, .comment, .comment, 0⟩

/-- The lexemes from the directive on. -/
theorem scan_directive :
    scan (w.mark ++ (w.body ++ w.after)) = (w.directive :: w.rest, (scan w.text).2) := by
  obtain ⟨t, ht, hscan⟩ := scan_split w.scan_text
  rwa [← List.append_cancel_left ht] at hscan

theorem firstLine_directive :
    Text.firstLine (w.mark ++ (w.body ++ w.after)) = w.mark ++ w.body := by
  have hkind := w.directive.kind_of_directive w.role_directive
  rw [← Lexeme.text_of_comment (first?_of_scan w.scan_directive) (.inl hkind), w.text_directive]

theorem inline_directive : ∀ c ∈ w.mark ++ w.body, (c != '\n') = true := by
  rw [← w.firstLine_directive]
  exact List.all_eq_true.1 List.all_takeWhile

/-- After the directive its line ends. -/
theorem firstLine_after : Text.firstLine w.after = [] := by
  have hline := w.firstLine_directive
  rwa [← List.append_assoc, Text.firstLine, List.takeWhile_append_of_pos w.inline_directive,
    List.append_right_eq_self] at hline

theorem after_cases : w.after = [] ∨ ∃ r, w.after = '\n' :: r := by
  have hline := w.firstLine_after
  rcases hafter : w.after with _ | ⟨c, r⟩
  · exact .inl rfl
  · by_cases hc : c = '\n'
    · exact .inr ⟨r, by rw [hc]⟩
    · simp [Text.firstLine, hafter, hc] at hline

theorem scan_after : scan w.after = (w.rest, (scan w.text).2) := by
  have hscan := w.scan_directive
  rw [scan_of_some (first?_of_scan hscan), w.text_directive, ← List.append_assoc,
    List.drop_left] at hscan
  obtain ⟨hxs, hrest⟩ := Prod.mk.inj hscan
  exact Prod.ext (List.cons.inj hxs).2 hrest

/-- The comment is the first lexeme where the directive was. -/
theorem first?_comment : Lexeme.first? (w.mark ++ (w.remark ++ w.after)) = some w.comment := by
  have hne : w.mark ++ w.remark ≠ [] :=
    List.append_ne_nil_of_left_ne_nil (mark_ne_nil w.isMark) _
  have hremark : startsRemark (w.mark ++ (w.remark ++ w.after)) = true := by
    rw [← List.append_assoc, ← w.isRemark]
    rcases w.after_cases with ha | ⟨r, ha⟩ <;> rw [ha]
    · rw [List.append_nil]
    · exact startsRemark_line r hne
  have hplain : readDirective? (w.mark ++ (w.remark ++ w.after)) = none := by
    rw [← List.append_assoc, ← w.not_directive]
    rcases w.after_cases with ha | ⟨r, ha⟩ <;> rw [ha]
    · rw [List.append_nil]
    · exact readDirective?_line r
  have hinline : ∀ c ∈ w.mark ++ w.remark, (c != '\n') = true := by
    intro c hc
    rcases List.mem_append.1 hc with hc | hc
    · exact w.inline_directive c (List.mem_append_left _ hc)
    · exact bne_iff_ne.2 fun he => w.isInline (he ▸ hc)
  have hline : Text.firstLine (w.mark ++ (w.remark ++ w.after)) = w.mark ++ w.remark := by
    have hafter := w.firstLine_after
    unfold Text.firstLine at hafter ⊢
    rw [← List.append_assoc, List.takeWhile_append_of_pos hinline, hafter, List.append_nil]
  rw [Lexeme.first?_remark w.isMark hremark hplain, hline]
  rfl

/-- **No other lexeme changes** when a directive is reworded. -/
theorem scan_reworded :
    scan w.reworded = (w.before ++ w.comment :: w.rest, (scan w.text).2) := by
  have hcomment : scan (w.mark ++ (w.remark ++ w.after)) =
      (w.comment :: w.rest, (scan w.text).2) := by
    have hdrop : (w.mark ++ (w.remark ++ w.after)).drop w.comment.text.length = w.after := by
      rw [comment, ← List.append_assoc, List.drop_left]
    rw [scan_of_some w.first?_comment, hdrop, w.scan_after]
  have hne : Text.firstLine (w.mark ++ (w.body ++ w.after)) ≠ [] := by
    rw [w.firstLine_directive]
    exact List.append_ne_nil_of_left_ne_nil (mark_ne_nil w.isMark) _
  rw [reworded, scan_break (breaks_mark w.isMark _) (breaks_mark w.isMark _)
    (sameBreak_mark w.isMark _ _) w.scan_text fun _ _ _ => hne, hcomment]

end Rewording

/-! ### Lexemes without a meaning for the code -/

/-- A lexeme that does nothing but turn to a topic, which is no boundary. -/
structure Lexeme.IsIdle (x : Lexeme) : Prop where
  not_blank : x.kind ≠ .blank
  read : ∀ o : Outline, o.read x = o.turnTo x.topic
  boundary : x.topic.boundary? = none

theorem Lexeme.isIdle_of_comment {x : Lexeme} (h : x.kind = .comment) : x.IsIdle := by
  have htopic : x.topic = .kind .comment := by rw [topic_of_ne (by rw [h]; decide), h]
  refine ⟨by rw [h]; decide, fun o => ?_, by rw [htopic]; rfl⟩
  rw [htopic, Outline.read_of_comment h]

theorem Lexeme.isIdle_of_directive {x : Lexeme} {command : String}
    (hrole : x.role = .directive command) (h : (Topic.directive command).boundary? = none) :
    x.IsIdle := by
  have htopic : x.topic = .directive command := by rw [topic, hrole]
  refine ⟨by rw [x.kind_of_directive hrole]; decide, fun o => ?_, by rw [htopic, h]⟩
  unfold Outline.read
  rw [hrole, htopic]

/-- The same lexeme, or one that means as little and is as long. -/
def Lexeme.Matches (x x' : Lexeme) : Prop :=
  x' = x ∨ x.IsIdle ∧ x'.IsIdle ∧ x'.text.length = x.text.length

namespace Outline

variable {lax : Bool} {x x' : Lexeme}

/-- An outline with another topic. -/
def withTopic (t : Option Topic) (o : Outline) : Outline := { o with topic := t }

theorem settle_withTopic (t : Option Topic) (o : Outline) :
    (o.withTopic t).settle = o.settle.withTopic t := by
  unfold settle
  rw [show (o.withTopic t).isInside = o.isInside from rfl]
  split <;> rfl

/-- What a lexeme without a meaning does: if anything is open, no statement is about to end. -/
theorem advance_of_isIdle (hx : x.IsIdle) (o : Outline) :
    o.advance lax x = o.settle.withTopic (some x.topic) := by
  rw [advance, if_neg hx.not_blank, hx.read, bound_of_none (o := o.turnTo x.topic) hx.boundary]
  exact settle_withTopic _ o

/-- What the topic was has no effect, unless white space follows. -/
theorem advance_withTopic (t : Option Topic) (o : Outline) :
    ∃ t', (o.withTopic t).advance lax x = (o.advance lax x).withTopic t' := by
  unfold advance
  split
  · exact ⟨t, rfl⟩
  · have hread : (o.withTopic t).read x = o.read x := by
      unfold read
      cases x.role <;> rfl
    exact ⟨_, by rw [hread]; rfl⟩

theorem advance_matches (lax : Bool) (h : x.Matches x') (t : Option Topic) (o : Outline) :
    ∃ t', (o.withTopic t).advance lax x' = (o.advance lax x).withTopic t' := by
  rcases h with rfl | ⟨hx, hx', -⟩
  · exact advance_withTopic t o
  · rw [advance_of_isIdle hx, advance_of_isIdle hx', settle_withTopic]
    exact ⟨some x'.topic, rfl⟩

theorem ends_matches (h : x.Matches x') (t : Option Topic) (o : Outline) :
    (o.withTopic t).ends lax x' = o.ends lax x := by
  have hblank : (x'.kind != .blank) = (x.kind != .blank) := by
    rcases h with rfl | ⟨hx, hx', -⟩
    · rfl
    · rw [bne_iff_ne.2 hx.not_blank, bne_iff_ne.2 hx'.not_blank]
  obtain ⟨t', hadvance⟩ := advance_matches lax h t o
  unfold ends
  rw [hadvance, hblank]
  rfl

/-- **Lexemes that match** do the same, up to the topic. -/
theorem next_matches (h : x.Matches x') (t : Option Topic) (o : Outline) :
    ∃ t', (o.withTopic t).next lax x' = (o.next lax x).withTopic t' := by
  obtain ⟨t', hadvance⟩ := advance_matches lax h t o
  refine ⟨t', ?_⟩
  unfold next
  rw [ends_matches h, hadvance]
  split <;> rfl

end Outline

/-! ### Two readings -/

namespace Reading

open Lint

variable {p : Profile} {r r' s s' : Reading}

/-- The readings have come to the same place with the same code. -/
structure Abreast (r r' : Reading) : Prop where
  position : r'.position = r.position
  statements : r'.statements = r.statements
  outline : ∃ t, r'.outline = r.outline.withTopic t

/-- The place that a reading has reached, the tokens so far, where the current statement starts, and
how many have ended. -/
def progress (r : Reading) : Int × List Token × Nat × Nat :=
  (r.position, r.tokens, r.statementStart, r.statements)

theorem Abreast.progress (h : r.Abreast r') : r'.progress = r.progress := by
  obtain ⟨t, hout⟩ := h.outline
  have htokens : r'.tokens = r.tokens := congrArg Outline.tokens hout
  have hstart : r'.statementStart = r.statementStart := congrArg Outline.statementStart hout
  unfold Reading.progress
  rw [h.position, h.statements, htokens, hstart]

/-- **One lexeme** more. -/
theorem Abreast.readLexeme {x x' : Lexeme} (h : r.Abreast r') (hx : x.Matches x')
    (hs : Reading.readLexeme p x r = .ok () s) (hs' : Reading.readLexeme p x' r' = .ok () s') :
    s.Abreast s' := by
  obtain ⟨t, hout⟩ := h.outline
  have hlength : x'.text.length = x.text.length := by
    rcases hx with rfl | ⟨-, -, hlength⟩
    · rfl
    · exact hlength
  refine ⟨?_, ?_, ?_⟩
  · rw [(readLexeme_ok hs').2.position, (readLexeme_ok hs).2.position, h.position, hlength]
  · rw [statements_readLexeme hs', statements_readLexeme hs, h.statements, hout,
      Outline.ends_matches hx]
  · rw [(readLexeme_ok hs').1, (readLexeme_ok hs).1, hout]
    exact Outline.next_matches hx t r.outline

theorem trace_of_ok {x : Lexeme} {xs : List Lexeme} {rest : List Char}
    (h : Reading.readLexeme p x r = .ok () s) :
    trace p rest (x :: xs) r = .ok () s :: trace p rest xs s := by
  rw [trace, EStateM.run, h]

/-- **All lexemes**: two readings that keep abreast, and the states on their way. -/
theorem Abreast.readLexemes {xs xs' : List Lexeme} (h : r.Abreast r')
    (hxs : List.Forall₂ Lexeme.Matches xs xs') (hs : xs.forM (Reading.readLexeme p) r = .ok () s)
    (hs' : xs'.forM (Reading.readLexeme p) r' = .ok () s') (rest : List Char) :
    s.Abreast s' ∧ (trace p rest xs' r').map (fun res => (left res).progress) =
      (trace p rest xs r).map fun res => (left res).progress := by
  induction hxs generalizing r r' with
  | nil =>
    cases hs
    cases hs'
    refine ⟨h, ?_⟩
    unfold trace
    split
    · rfl
    · exact congrArg (fun q => [q]) h.progress
  | cons hx hxs ih =>
    obtain ⟨⟨⟩, r₁, hone, hs⟩ := bind_ok hs
    obtain ⟨⟨⟩, r₁', hone', hs'⟩ := bind_ok hs'
    have h₁ := h.readLexeme hx hone hone'
    obtain ⟨hend, htrace⟩ := ih h₁ hs hs'
    refine ⟨hend, ?_⟩
    rw [trace_of_ok hone, trace_of_ok hone', List.map_cons, List.map_cons, htrace]
    exact congrArg (· :: _) h₁.progress

/-- The end of a text ends the last statement. -/
theorem statements_finish {rest : List Char} (h : finish p rest r = .ok () s) :
    s.statements = r.statements + 1 := by
  have hrecord : (if rest.isEmpty then r else r.recordUnmatched).statements = r.statements := by
    split <;> rfl
  rw [finish_eq] at h
  obtain ⟨⟨⟩, r₁, hcheck, h⟩ := bind_ok h
  cases h
  rw [← hrecord, ← (steady_checkLine p).blind.statements hcheck]

/-- What the code of a text has come to does not depend on the words of its comments. -/
structure SameOutcome (p : Profile) (text text' : List Char) (r r' : Reading) : Prop where
  tokens : r'.allTokens = r.allTokens
  problems : r'.problems = r.problems
  statements : r'.statements = r.statements
  /-- Statements end at the same places. -/
  course : (follow p text' fresh).map (fun res => (left res).progress) =
    (follow p text fresh).map fun res => (left res).progress

/-- A directive whose command is no boundary is a comment. -/
theorem sameOutcome_of_boundary {command : String}
    (hcommand : (Topic.directive command).boundary? = none) (w : Rewording command)
    (h : (read p w.text).run fresh = .ok () r) (h' : (read p w.reworded).run fresh = .ok () r') :
    SameOutcome p w.text w.reworded r r' := by
  obtain ⟨⟨⟩, s, hlex, hfinish⟩ := bind_ok
    (x := (scan w.text).1.forM (Reading.readLexeme p)) (s := fresh.start w.text) h
  obtain ⟨⟨⟩, s', hlex', hfinish'⟩ := bind_ok
    (x := (scan w.reworded).1.forM (Reading.readLexeme p)) (s := fresh.start w.reworded) h'
  have hrest : s.rest = (scan w.text).2 :=
    (StandsAfter.readLexemes (List.append_nil _).symm hlex).rest (joined_scan _).1.symm
  have hrest' : s'.rest = (scan w.reworded).2 :=
    (StandsAfter.readLexemes (List.append_nil _).symm hlex').rest (joined_scan _).1.symm
  have hscan : (scan w.text).1 = w.before ++ w.directive :: w.rest := w.scan_text
  have hmatches : List.Forall₂ Lexeme.Matches (scan w.text).1 (scan w.reworded).1 := by
    have hone : w.directive.Matches w.comment := by
      refine .inr ⟨Lexeme.isIdle_of_directive w.role_directive hcommand,
        Lexeme.isIdle_of_comment rfl, ?_⟩
      rw [w.text_directive, Rewording.comment, List.length_append, List.length_append,
        w.length_remark]
    have hsame : ∀ xs, List.Forall₂ Lexeme.Matches xs xs := fun _ =>
      List.forall₂_same.2 fun _ _ => .inl rfl
    rw [hscan, w.scan_reworded]
    exact List.rel_append (hsame _) (.cons hone (hsame _))
  have hstart : (fresh.start w.text).Abreast (fresh.start w.reworded) := ⟨rfl, rfl, none, rfl⟩
  obtain ⟨hend, hcourse⟩ := hstart.readLexemes hmatches hlex hlex' (scan w.text).2
  obtain ⟨t, hout⟩ := hend.outline
  have htokens : s'.tokens = s.tokens := congrArg Outline.tokens hout
  have hproblems : s'.problems = s.problems := congrArg Outline.problems hout
  have hline : s'.line = s.line := congrArg Outline.line hout
  have hleft : (scan w.reworded).2 = (scan w.text).2 := by rw [w.scan_reworded]
  refine ⟨?_, ?_, ?_, ?_⟩
  · rw [allTokens, allTokens, (finish_ok hfinish').2.1, (finish_ok hfinish).2.1, htokens]
  · rw [(finish_ok hfinish').2.2, (finish_ok hfinish).2.2, hleft]
    split
    · exact hproblems
    · rw [recordUnmatched, recordUnmatched, hrest, hrest', hleft, hproblems, hline]
  · rw [statements_finish hfinish', statements_finish hfinish, hend.statements]
  · have hfollow : follow p w.reworded fresh =
        trace p (scan w.text).2 (scan w.reworded).1 (fresh.start w.reworded) := by
      rw [← hleft]
      rfl
    rw [hfollow]
    exact hcourse

end Reading

/-! ### Commands that are boundaries -/

/-- The commands that mean something for the code. -/
def boundaryNames : List String :=
  Symbol.endFunction.name :: (Kind.named.filter (·.boundary?.isSome)).map Kind.name

theorem mem_boundaryNames {command : String} (h : (Topic.directive command).boundary? ≠ none) :
    command ∈ boundaryNames := by
  unfold Topic.boundary? at h
  simp only at h
  split at h
  · next hname => exact hname ▸ List.mem_cons_self
  · obtain ⟨b, hb⟩ := Option.ne_none_iff_exists'.1 h
    obtain ⟨k, hk, hkb⟩ := Option.bind_eq_some_iff.1 hb
    have hname : k.name = command := by simpa using List.find?_some hk
    refine List.mem_cons_of_mem _ (List.mem_map.2 ⟨k, ?_, hname⟩)
    exact List.mem_filter.2 ⟨List.mem_of_find?_eq_some hk, by rw [hkb]; rfl⟩

/-- Two names on a line. -/
def twoNames : List Lexeme :=
  [⟨['x'], .ident "x" "", .ident, .ident, 0⟩, ⟨[' '], .plain, .blank, .blank, 0⟩,
    ⟨['x'], .ident "x" "", .ident, .ident, 0⟩]

/-- What follows the mark of a directive. -/
def directiveBody (command : String) : List Char := "BSLINT_".toList ++ command.toList

/-- Whether the directive is a lexeme where it stands after two names and before a third on a line
of its own. -/
def followsNames (command : String) : Bool :=
  (scan (joined twoNames ++ (['\''] ++ (directiveBody command ++ ['\n', 'y'])))).1 =
    twoNames ++
      ⟨'\'' :: directiveBody command, .directive command none, .directive, .directive, 0⟩ ::
        [.lineFeed, ⟨['y'], .ident "y" "", .ident, .ident, 0⟩]

theorem followsNames_all : (("skip_line" :: boundaryNames).all followsNames) = true := by
  decide +kernel

/-- Dashes in the place of such a directive. -/
def Rewording.dashes {command : String} (h : followsNames command = true) : Rewording command where
  before := twoNames
  directive := ⟨'\'' :: directiveBody command, .directive command none, .directive, .directive, 0⟩
  rest := [.lineFeed, ⟨['y'], .ident "y" "", .ident, .ident, 0⟩]
  mark := ['\'']
  body := directiveBody command
  remark := List.replicate (directiveBody command).length '-'
  after := ['\n', 'y']
  scan_text := of_decide_eq_true h
  text_directive := rfl
  role_directive := rfl
  isMark := rfl
  length_remark := List.length_replicate
  isInline := by simp
  isRemark := rfl
  not_directive := rfl

namespace Reading

/-- Whether both texts of such a rewording can be read, and with what numbers of statements. -/
def returnDashes (command : String) (q q' : Nat → Bool) : Bool :=
  returnsWith ⟨.obj [], fun _ => true⟩
      (joined twoNames ++ (['\''] ++ (directiveBody command ++ ['\n', 'y']))) (q ·.statements) &&
    returnsWith ⟨.obj [], fun _ => true⟩
      (joined twoNames ++
        (['\''] ++ (List.replicate (directiveBody command).length '-' ++ ['\n', 'y'])))
      (q' ·.statements)

theorem exists_of_returnDashes {command : String} {q q' : Nat → Bool}
    (hfollows : followsNames command = true) (h : returnDashes command q q' = true) :
    ∃ r r', (read ⟨.obj [], fun _ => true⟩ (Rewording.dashes hfollows).text).run fresh = .ok () r ∧
      (read ⟨.obj [], fun _ => true⟩ (Rewording.dashes hfollows).reworded).run fresh = .ok () r' ∧
      q r.statements = true ∧ q' r'.statements = true := by
  obtain ⟨hdirective, hdashes⟩ := Bool.and_eq_true_iff.1 h
  obtain ⟨r, hr, hq⟩ := exists_of_returnsWith hdirective
  obtain ⟨r', hr', hq'⟩ := exists_of_returnsWith hdashes
  exact ⟨r, r', hr, hr', hq, hq'⟩

theorem returnDashes_all : (returnDashes "skip_line" (· == 2) (· == 2) &&
    boundaryNames.all fun command => returnDashes command (· != 2) (· == 2)) = true := by
  decide +kernel

/-- **A directive is a comment**, whose words have no effect on the tokens, the problems, and the
number and the places of the statements, exactly if its command is not the name of a boundary. -/
theorem reworded_iff (command : String) :
    (∀ (w : Rewording command) (p : Profile) (r r' : Reading),
      (read p w.text).run fresh = .ok () r → (read p w.reworded).run fresh = .ok () r' →
        SameOutcome p w.text w.reworded r r') ↔
      (Topic.directive command).boundary? = none := by
  constructor
  · intro hsame
    by_contra hboundary
    have hmem := mem_boundaryNames hboundary
    have hfollows := List.all_eq_true.1 followsNames_all command (List.mem_cons_of_mem _ hmem)
    have hreturn := List.all_eq_true.1 (Bool.and_eq_true_iff.1 returnDashes_all).2 command hmem
    obtain ⟨r, r', hr, hr', hcount, hcount'⟩ := exists_of_returnDashes hfollows hreturn
    have hstatements := (hsame (Rewording.dashes _) _ r r' hr hr').statements
    simp only [bne_iff_ne, beq_iff_eq] at hcount hcount'
    omega
  · intro hboundary w p r r' hr hr'
    exact sameOutcome_of_boundary hboundary w hr hr'

theorem reworded_iff_skipLine :
    ∃ (w : Rewording "skip_line") (r r' : Reading),
      (read ⟨.obj [], fun _ => true⟩ w.text).run fresh = .ok () r ∧
      (read ⟨.obj [], fun _ => true⟩ w.reworded).run fresh = .ok () r' ∧
      SameOutcome ⟨.obj [], fun _ => true⟩ w.text w.reworded r r' := by
  have hfollows := List.all_eq_true.1 followsNames_all "skip_line" List.mem_cons_self
  have hreturn := (Bool.and_eq_true_iff.1 returnDashes_all).1
  obtain ⟨r, r', hr, hr', -, -⟩ := exists_of_returnDashes hfollows hreturn
  exact ⟨.dashes hfollows, r, r', hr, hr',
    (reworded_iff "skip_line").2 (by decide) (.dashes hfollows) _ r r' hr hr'⟩

/-- A directive that opens an object, which is not there: a comma is added at the end of the line,
and the statement goes on. -/
theorem read_bracketDirective :
    (∃ r, (read ⟨.obj [], fun _ => true⟩ "x = 1 'BSLint_OPEN_CURLY_BRACKET\ny = 2".toList).run
        fresh = .ok () r ∧ r.openCurly = 1 ∧ r.statements = 1 ∧ r.tokens.length = 7) ∧
      ∃ r, (read ⟨.obj [], fun _ => true⟩ "x = 1 '-------------------------\ny = 2".toList).run
        fresh = .ok () r ∧ r.openCurly = 0 ∧ r.statements = 2 ∧ r.tokens.length = 6 := by
  have hboth : (returnsWith ⟨.obj [], fun _ => true⟩
        "x = 1 'BSLint_OPEN_CURLY_BRACKET\ny = 2".toList (fun r =>
          r.openCurly == 1 && (r.statements == 1 && r.tokens.length == 7)) &&
      returnsWith ⟨.obj [], fun _ => true⟩
        "x = 1 '-------------------------\ny = 2".toList (fun r =>
          r.openCurly == 0 && (r.statements == 2 && r.tokens.length == 6))) = true := by
    decide +kernel
  obtain ⟨hdirective, hdashes⟩ := Bool.and_eq_true_iff.1 hboth
  obtain ⟨r, hr, hq⟩ := exists_of_returnsWith hdirective
  obtain ⟨r', hr', hq'⟩ := exists_of_returnsWith hdashes
  simp only [Bool.and_eq_true, beq_iff_eq] at hq hq'
  exact ⟨⟨r, hr, hq⟩, r', hr', hq'⟩

end Reading

end BrightLint
