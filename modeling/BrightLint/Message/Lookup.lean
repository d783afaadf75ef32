import BrightLint.Fault
import BrightLint.Json.Basic
import BrightLint.Message.Finding
import BrightLint.Message.Notice

/-!
Messages by key: the text of a message for parameters that may be of any kind.
-/

namespace BrightLint.Message

/-- The template that a table has for a key. A list or an object is no key. -/
def templateFor (table : String → Option Template) : Json → Except Fault Template
  | .str k => match table k with
    | some t => .ok t
    | none => .error .unknownMessage
  | .arr _ | .obj _ => .error .wrongType
  | _ => .error .unknownMessage

/-- The parameters of a message: what a value contains, and nothing for a value that counts as
false. -/
def paramsOf (params : Json) : Except Fault (List String) :=
  if params.isTrue then
    match params.items? with
    | some items => .ok (items.map Json.text)
    | none => .error .wrongType
  else .ok []

/-- A template filled with parameters of any kind. -/
def write (table : String → Option Template) (key params : Json) : Except Fault String := do
  let t ← templateFor table key
  let ps ← paramsOf params
  match t.fill? ps with
  | some s => .ok s
  | none => .error .badIndex

/-- The text of a finding. -/
def finding (key params : Json) : Except Fault String :=
  write (fun k => (Finding.ofKey? k).map Finding.template) key params

/-- The line of a notice. -/
def notice (key params : Json) : Except Fault String :=
  (write (fun k => (Notice.ofKey? k).map Notice.template) key params).map (· ++ "\n")

end BrightLint.Message
