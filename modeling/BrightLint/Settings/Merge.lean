import BrightLint.Settings.Basic
import BrightLint.Json.Reader
import BrightLint.Message.Notice
import BrightLint.Text.Encoding
import BrightLint.Text.Span

/-!
The settings of a project: the standard settings with what the file of a user replaces in them.

* `UserFile`: what is known of the file of the user
* `merge`: replaces settings one by one, and stops at the first that does not fit
* `load`: the settings in force, and what is printed about the file
-/

namespace BrightLint.Settings

/-- What is known of the file in which a user keeps settings. -/
inductive UserFile where
  /-- No file was asked for. -/
  | none
  /-- There is no such file. -/
  | missing
  /-- The file does not hold a settings value. -/
  | unreadable
  | value (v : Json)

/-- The file of a user from its bytes. -/
def UserFile.ofBytes (bytes : ByteArray) : UserFile :=
  match (Text.Encoding.utf8.decode? bytes).bind Json.ofText? with
  | some v => .value v
  | Option.none => .unreadable

/-- Why a merge stopped. -/
inductive Stop where
  /-- A setting is not one of those to be replaced, or an index is outside a list. -/
  | unknown (key : String)
  /-- A value is of a type that cannot be merged. -/
  | mistyped

/-! ### Replacing one setting -/

/-- Whether a setting is among those to be replaced. -/
def contains (base setting : Json) : Except Stop Bool :=
  match base, setting with
  | .obj _, .arr _ | .obj _, .obj _ => .error .mistyped
  | .obj fields, key => match key.asKey? with
    | some k => .ok (Json.field? fields k).isSome
    | Option.none => .ok false
  | .arr items, v => .ok (items.any v.same)
  | text, key => match text.points?, key.points? with
    | some ps, some ks => .ok (Text.occursIn ks ps)
    | _, _ => .error .mistyped

/-- The value that a user gives to a setting. -/
def given (user setting : Json) : Except Stop Json :=
  match user, setting with
  | .obj fields, key => match key.asKey?.bind (Json.field? fields) with
    | some v => .ok v
    | Option.none => .error .mistyped
  | .arr items, v => match v.asInt? with
    | some i => match Span.get? i items with
      | some w => .ok w
      | Option.none => .error (.unknown "list index out of range")
    | Option.none => .error .mistyped
  | _, _ => .error .mistyped

/-- The settings with one of them replaced. -/
def replace (base setting v : Json) : Except Stop Json :=
  match base, setting with
  | .obj fields, key => match key.asKey? with
    | some k => .ok (.obj (Json.insert k v fields))
    | Option.none => .error .mistyped
  | .arr items, s => match s.asInt? with
    | some i => match Span.index? items.length i with
      | some j => .ok (.arr (items.set j v))
      | Option.none => .error (.unknown "list assignment index out of range")
    | Option.none => .error .mistyped
  | _, _ => .error .mistyped

/-! ### Merging -/

/-- Replaces the settings named in a list by the values that a user gives them. The settings come
back as far as they were replaced. -/
def mergeKeys (user : Json) : List Json → Json → Json × Option Stop
  | [], base => (base, Option.none)
  | key :: keys, base =>
    match contains base key with
    | .error e => (base, some e)
    | .ok false => (base, some (.unknown key.text))
    | .ok true =>
      match (given user key).bind (replace base key) with
      | .error e => (base, some e)
      | .ok base => mergeKeys user keys base

/-- Replaces every setting that a user gives. -/
def merge (base user : Json) : Json × Option Stop :=
  match user.items? with
  | some keys => mergeKeys user keys base
  | Option.none => (base, some .mistyped)

/-- The settings in force, and what is printed about the file of the user. A file that cannot be
read, or names a setting that does not exist, leaves no settings at all; any other fault is passed
over. -/
def load (base : Json) (file : UserFile) : Settings × String :=
  match file with
  | .none => (base, "")
  | .missing => (base, Notice.noSettings.line [])
  | .unreadable => (.null, Notice.unreadableSettings.line [])
  | .value user =>
    match merge base user with
    | (base, Option.none) => (base, "")
    | (base, some .mistyped) => (base, "")
    | (_, some (.unknown key)) => (.null, Notice.unknownSetting.line [key])

end BrightLint.Settings
