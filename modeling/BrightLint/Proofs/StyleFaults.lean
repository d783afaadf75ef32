import BrightLint.Reading.Run

/-!
The faults of the style checks. Whatever the settings are, a style check may fail because of them,
but it never says that the code is not a program: such a fault comes from the grammar alone.

* `Neutral`: a computation whose faults say nothing about the code
* `Check.neutral_comment` and so on: the style checks are of this kind
-/

namespace BrightLint

/-- Whether a fault says that the code is not a program. -/
def Fault.isVerdict : Fault → Bool
  | .unparsed _ => true
  | _ => false

/-- A computation whose faults say nothing about the code. -/
def Neutral {α : Type} (v : Except Fault α) : Prop := ∀ f, v = .error f → f.isVerdict = false

section Neutral

variable {α β : Type}

theorem neutral_ok (a : α) : Neutral (.ok a : Except Fault α) := fun _ h => by cases h

theorem neutral_error {f : Fault} (h : f.isVerdict = false) :
    Neutral (.error f : Except Fault α) := fun _ he => by
  cases he
  exact h

theorem Neutral.bind {v : Except Fault α} {g : α → Except Fault β} (hv : Neutral v)
    (hg : ∀ a, Neutral (g a)) : Neutral (v >>= g) := by
  cases v with
  | ok a => exact hg a
  | error f => exact neutral_error (hv f rfl)

theorem Neutral.map {v : Except Fault α} (g : α → β) (hv : Neutral v) : Neutral (v.map g) := by
  cases v with
  | ok a => exact neutral_ok _
  | error f => exact neutral_error (hv f rfl)

end Neutral

/-! ### Values and settings -/

theorem Json.neutral_get (key : String) (v : Json) : Neutral (v.get key) := by
  unfold Json.get
  split
  · split
    · exact neutral_ok _
    · exact neutral_error rfl
  · exact neutral_error rfl

theorem Json.neutral_getPath (path : List String) (v : Json) : Neutral (getPath path v) := by
  induction path generalizing v with
  | nil => exact neutral_ok _
  | cons key path ih => exact (neutral_get key v).bind ih

theorem Json.neutral_number (v : Json) : Neutral v.number := by
  unfold number
  split
  · exact neutral_ok _
  · exact neutral_error rfl

theorem Quantity.neutral_toFloat (q : Quantity) : Neutral q.toFloat := by
  unfold toFloat
  split
  · split
    · exact neutral_error rfl
    · exact neutral_ok _
  · exact neutral_ok _

theorem Quantity.neutral_times (q r : Quantity) : Neutral (q.times r) := by
  unfold times combine
  split
  · exact neutral_ok _
  · exact (neutral_toFloat q).bind fun x => (neutral_toFloat r).bind fun y => neutral_ok _

theorem Json.neutral_repeated (v n : Json) : Neutral (v.repeated n) := by
  refine (neutral_number n).bind fun k => ?_
  split
  · exact neutral_ok _
  · exact neutral_ok _
  · exact neutral_error rfl

theorem Json.neutral_times (v w : Json) : Neutral (v.times w) := by
  unfold times
  split
  · exact (Quantity.neutral_times _ _).map _
  · exact neutral_repeated _ _
  · exact neutral_repeated _ _

mutual

theorem Json.neutral_less (v w : Json) : Neutral (v.less w) := by
  unfold less
  split
  · exact neutral_lessItems _ _
  · split
    · exact neutral_ok _
    · exact neutral_ok _
    · exact neutral_error rfl

theorem Json.neutral_lessItems (vs ws : List Json) : Neutral (lessItems vs ws) := by
  unfold lessItems
  split
  · split
    · exact neutral_lessItems _ _
    · exact neutral_less _ _
  · exact neutral_ok _
  · exact neutral_ok _

end

namespace Settings

theorem neutral_entry (s : Settings) (key : Json) : Neutral <| s.entry? key := by
  unfold entry?
  split
  · exact neutral_error rfl
  · exact neutral_error rfl
  · exact neutral_ok _
  · exact neutral_ok _
  · exact neutral_ok _
  · split
    · exact neutral_ok _
    · split
      · split
        · exact neutral_ok _
        · exact neutral_error rfl
      · exact neutral_error rfl
  · split
    · split
      · exact neutral_error rfl
      · exact neutral_ok _
    · exact neutral_error rfl

theorem neutral_activity (s : Settings) (key : Json) : Neutral (activity s key) := by
  refine (neutral_entry s key).bind fun entry => ?_
  split
  · exact Json.neutral_get _ _
  · exact neutral_ok _

theorem neutral_isActive (s : Settings) (c : Check) : Neutral (isActive s c) :=
  (neutral_activity s _).map _

theorem neutral_params (s : Settings) (c : Check) : Neutral (params s c) :=
  Json.neutral_getPath _ _

theorem neutral_param (s : Settings) (c : Check) (key : String) : Neutral (param s c key) :=
  (neutral_params s c).bind fun v => Json.neutral_get key v

end Settings

/-! ### Patterns -/

theorem Pattern.neutral_exactly? (p : Pattern) (same : List Char → Pattern) (n : Int) :
    Neutral (p.exactly? same n) := by
  unfold exactly?
  split
  · exact neutral_ok _
  · split
    · exact neutral_error rfl
    · exact neutral_ok _

theorem Regex.neutral_ofPoints? (m : Mode) (ps : List Text.Point) :
    Neutral (ofPoints? m ps) := by
  unfold ofPoints?
  split
  · exact neutral_ok _
  · next flaw _ => exact neutral_error (by cases flaw <;> rfl)

/-! ### Checks -/

theorem neutral_whenActive {α : Type} (s : Settings) (c : Check)
    {body : Except Fault (Option α)} (h : Neutral body) : Neutral (whenActive s c body) := by
  refine (Settings.neutral_isActive s c).bind fun b => ?_
  split
  · exact h
  · exact neutral_ok _

namespace Check

open Settings Json

theorem neutral_tracing (s : Settings) : Neutral (findTracing s) :=
  neutral_whenActive s _ (neutral_ok _)

theorem neutral_missingComma (s : Settings) : Neutral (findMissingComma s) :=
  neutral_whenActive s _ (neutral_ok _)

theorem neutral_trailingComma (s : Settings) : Neutral (findTrailingComma s) :=
  neutral_whenActive s _ (neutral_ok _)

theorem neutral_skippedLine (s : Settings) (line : Int) : Neutral (skippedLine s line) :=
  neutral_whenActive s _ (neutral_ok _)

theorem neutral_skipsFile (s : Settings) : Neutral (skipsFile s) := neutral_activity s _

theorem neutral_longLine (s : Settings) (length : Json) : Neutral (findLongLine s length) := by
  refine neutral_whenActive s _ ((neutral_param s _ _).bind fun limit => ?_)
  refine (neutral_less limit length).bind fun b => ?_
  split <;> exact neutral_ok _

theorem neutral_emptyLines (s : Settings) (count : Json) : Neutral (findEmptyLines s count) := by
  refine neutral_whenActive s _ ((neutral_param s _ _).bind fun allowed => ?_)
  refine (neutral_less allowed count).bind fun b => ?_
  split <;> exact neutral_ok _

theorem neutral_trailingBlank (s : Settings) (line : List Char) :
    Neutral (findTrailingBlank s line) := by
  refine neutral_whenActive s _ ?_
  split <;> exact neutral_ok _

theorem neutral_operatorSpacing (s : Settings) (text : List Char) (place : Int) (op : List Char) :
    Neutral (findOperatorSpacing s text place op) := by
  have hgap : ∀ spaces : Json, Neutral (operatorGap spaces) := by
    intro spaces
    unfold operatorGap
    split
    · exact Pattern.neutral_exactly? _ _ _
    · exact neutral_ok _
  refine neutral_whenActive s _ ((neutral_param s _ _).bind fun spaces => ?_)
  refine (neutral_number spaces).bind fun n => (hgap spaces).bind fun gap => ?_
  split <;> exact neutral_ok _

theorem neutral_declarationSpacing (s : Settings) (text : List Char) :
    Neutral (findDeclarationSpacing s text) := by
  have htest : ∀ count : Json, Neutral (declarationTest count) := by
    intro count
    unfold declarationTest
    split
    · exact (Pattern.neutral_exactly? _ _ _).map _
    · exact (Regex.neutral_ofPoints? _ _).map _
  refine (neutral_isActive s _).bind fun b => ?_
  split
  · exact neutral_ok _
  · refine (neutral_param s _ _).bind fun count => (htest count).bind fun fits => ?_
    split <;> exact neutral_ok _

theorem neutral_comment (s : Settings) (text : List Char) : Neutral (findComment s text) := by
  have htest : ∀ format : Json, Neutral (formatTest format) := by
    intro format
    unfold formatTest
    split
    · exact (Regex.neutral_ofPoints? _ _).map _
    · exact (Regex.neutral_ofPoints? _ _).map _
    · exact neutral_error rfl
  have hrules : Neutral (commentRules s) := by
    refine (neutral_params s _).bind fun params => (neutral_getPath _ params).bind fun todos => ?_
    exact (neutral_get _ params).bind fun generic =>
      (neutral_getPath _ params).bind fun format => neutral_ok _
  refine neutral_whenActive s _ (hrules.bind fun rules => ?_)
  split
  · split
    · refine (htest _).bind fun fits => ?_
      split <;> exact neutral_ok _
    · exact neutral_ok _
  · refine (htest _).bind fun fits => ?_
    split <;> exact neutral_ok _
  · split <;> exact neutral_ok _
  · exact neutral_ok _

theorem neutral_spelling (s : Settings) (knows : Dictionary) (text : List Char) (b : Bool) :
    Neutral (findSpelling s knows text b) := by
  refine (neutral_isActive s _).bind fun active => ?_
  split <;> exact neutral_ok _

theorem neutral_indentation (s : Settings) (level : Int) (line : List Char) (shift : Int) :
    Neutral (findIndentation s level line shift) := by
  have htest : ∀ (unit : IndentUnit) (count : Json), Neutral (indentTest unit count) := by
    intro unit count
    unfold indentTest
    split
    · exact (Pattern.neutral_exactly? _ _ _).map _
    · exact (Regex.neutral_ofPoints? _ _).map _
  have hrule : ∀ level : Json, Neutral (indentRule s level) := by
    intro level
    refine (neutral_params s _).bind fun params => (neutral_get _ params).bind fun size => ?_
    refine (neutral_get _ params).bind fun onlyTabs => ?_
    split
    · exact (htest _ _).bind fun test => neutral_ok _
    · exact (neutral_times size level).bind fun width =>
        (htest _ _).bind fun test => neutral_ok _
  refine (neutral_isActive s _).bind fun active => ?_
  split
  · exact neutral_ok _
  · refine Neutral.bind ((hrule _).bind fun rule => ?_) fun complaint => neutral_ok _
    obtain ⟨fits, complaint⟩ := rule
    simp only
    split <;> exact neutral_ok _

end Check

theorem Layout.neutral_lastLine (l : Layout) : Neutral l.lastLine := by
  unfold lastLine
  split
  · exact neutral_ok _
  · split
    · exact neutral_ok _
    · exact neutral_error rfl

end BrightLint
