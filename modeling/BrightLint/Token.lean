import BrightLint.Lexeme.Basic

/-!
Tokens: the lexemes that a statement is made of, as the grammar sees them.
-/

namespace BrightLint

/-- A token of a source text. -/
structure Token where
  text : String
  kind : Kind
  symbol : Symbol
  /-- The sign of the type of an identifier. -/
  suffix : Option String := none
  line : Option Nat := none
deriving DecidableEq, Repr

/-- The comma that is added at the end of a line inside a collection. -/
def Token.addedComma (line : Nat) : Token :=
  { text := ",", kind := .special, symbol := .comma, line := some line }

/-- The token of a lexeme. A comment has none; an identifier gives up the sign of its type, and a
string its quotation marks. -/
def Lexeme.token? (x : Lexeme) : Option Token :=
  if x.kind = .comment then none
  else match x.parts with
    | .ident value suffix =>
      some ⟨value, x.kind, x.symbol, if suffix.isEmpty then none else some suffix, none⟩
    | .quoted value => some ⟨value, x.kind, x.symbol, none, none⟩
    | _ => some ⟨String.ofList x.text, x.kind, x.symbol, none, none⟩

end BrightLint
