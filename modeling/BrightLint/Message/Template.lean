/-!
Templates of messages: pieces of text with a slot for a parameter between each two of them.
-/

namespace BrightLint

/-- A template: the pieces of text between its slots. -/
abbrev Template := List String

namespace Template

/-- How many parameters a template takes. -/
def slots (t : Template) : Nat := t.length - 1

/-- A template with its slots filled in order. Parameters beyond the last slot are dropped. -/
def fill : Template → List String → String
  | [], _ => ""
  | [piece], _ => piece
  | piece :: rest, [] => piece ++ fill rest []
  | piece :: rest, p :: ps => piece ++ p ++ fill rest ps

/-- A template filled, if there is a parameter for every slot. -/
def fill? (t : Template) (params : List String) : Option String :=
  if t.slots ≤ params.length then some (t.fill params) else none

end Template

end BrightLint
