import BrightLint.Json.Basic
import BrightLint.Text.Find
import BrightLint.Text.Span

/-!
The settings of the linter: an object with an entry for every check, which says whether the check
is active and with which parameters. A user may leave out or misshape anything, so every look into
the settings can fail.

* `Check`: the checks, with the keys of their entries
* `Settings.entry?`: the entry of a key
* `Settings.activity`: what an entry says about being active
* `Settings.param`: a parameter of a check
-/

namespace BrightLint

/-- The settings as they were read. -/
abbrev Settings := Json

/-- What can be switched on and off. -/
inductive Check where
  | comment | missingComma | trailingComma | fileEncoding | indentation | tracing | lineLength
  | emptyLines | skipFile | skipLine | operatorSpacing | spelling | declarationSpacing
  | trailingBlank
deriving DecidableEq, Repr

/-- The key of the entry of a check. -/
def Check.key : Check → String
  | .comment => "check_comment"
  | .missingComma => "check_commas_in_object"
  | .trailingComma => "check_trailing_comma_in_object"
  | .fileEncoding => "check_file_encoding"
  | .indentation => "check_indentation"
  | .tracing => "check_trace_free"
  | .lineLength => "max_line_length"
  | .emptyLines => "consecutive_empty_lines"
  | .skipFile => "skip_file"
  | .skipLine => "skip_line"
  | .operatorSpacing => "spaces_around_operators"
  | .spelling => "spell_check"
  | .declarationSpacing => "check_method_declaration_spacing"
  | .trailingBlank => "trailing_white_space"

namespace Settings

/-- The entry of a key. Only an object has entries; where the key occurs in a list it is taken for
an index, and where it occurs in a text it cannot be looked up. A key may be of any type that can
be asked for. -/
def entry? (s : Settings) (key : Json) : Except Fault (Option Json) :=
  match s, key with
  | .obj _, .arr _ | .obj _, .obj _ => .error .wrongType
  | .obj fields, .str k => .ok (Json.field? fields k)
  | .obj fields, .halved k => .ok (Json.field? fields (.halved k))
  | .obj _, _ => .ok none
  | .arr items, key =>
    if !items.any (Json.same key) then .ok none
    else match key.asInt? with
      | some i => match Span.get? i items with
        | some entry => .ok (some entry)
        | none => .error .badIndex
      | none => .error .wrongType
  | text, key => match text.points?, key.points? with
    | some ps, some ks => if Text.occursIn ks ps then .error .wrongType else .ok none
    | _, _ => .error .wrongType

/-- The value that says whether something is active: that of `active` in its entry, and false if
there is no entry. -/
def activity (s : Settings) (key : Json) : Except Fault Json := do
  match ← s.entry? key with
  | some entry => entry.get "active"
  | none => return .bool false

/-- Whether a check is active. -/
def isActive (s : Settings) (c : Check) : Except Fault Bool := (s.activity (.str c.key)).map Json.isTrue

/-- All parameters of a check. -/
def params (s : Settings) (c : Check) : Except Fault Json := Json.getPath [c.key, "params"] s

/-- A parameter of a check. -/
def param (s : Settings) (c : Check) (key : String) : Except Fault Json :=
  (s.params c).bind (Json.get key)

end Settings

end BrightLint
