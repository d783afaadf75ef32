import BrightLint.Symbol
import BrightLint.Lexeme.Kind
import BrightLint.Text.Word
import BrightLint.Text.Fold
import BrightLint.Text.Blank
import BrightLint.Text.Lines

/-!
Lexemes: the pieces of a source text.

* `Shape`: how a piece looks; `Shape.read?` reads one at the head of a text
* `Rule`: a shape with what its pieces count as
* `Lexeme`: a piece that was read
-/

namespace BrightLint

/-- The parts of a lexeme that have a meaning of their own. -/
inductive Parts where
  | plain
  /-- A directive to the linter: its command and its number. -/
  | directive (command : String) (param : Option String)
  /-- An identifier and the sign of its type, which may be empty. -/
  | ident (value suffix : String)
  /-- A string without its quotation marks. -/
  | quoted (value : String)
deriving DecidableEq, Repr

/-- How a lexeme looks. -/
inductive Shape where
  | lineFeed
  | blank
  | sign (text : String)
  | word (text : String)
  | directive
  | remark
  | ident
  | quoted
  | number
deriving DecidableEq, Repr

/-! ### Characters -/

/-- The letters of names, in any case. -/
def isNameLetter (c : Char) : Bool := let d := Text.fold c; 'a' ≤ d && d ≤ 'z'

/-- The characters that can start a name, and those that can stand in one. -/
def isNameStart (c : Char) : Bool := isNameLetter c || c == '_'
def isNameChar (c : Char) : Bool := isNameStart c || c.isDigit

/-- The signs of types. -/
def isTypeSign (c : Char) : Bool := c == '$' || c == '%' || c == '!' || c == '#' || c == '&'

/-! ### Reading the head of a text -/

/-- What follows a word at the head of a text, the case of letters being ignored. -/
def afterFolded? : List Char → List Char → Option (List Char)
  | [], s => some s
  | w :: ws, c :: s => if Text.fold c == Text.fold w then afterFolded? ws s else none
  | _ :: _, [] => none

/-- What follows the mark of a comment: an apostrophe or the word `rem`. -/
def afterMark? (s : List Char) : Option (List Char) :=
  match s with
  | '\'' :: rest => some rest
  | s => afterFolded? ['r', 'e', 'm'] s

/-- The number after the command of a directive. -/
def directiveParam? : List Char → Option String
  | ':' :: s =>
    let ds := s.takeWhile Char.isDigit
    if ds.isEmpty then none else some (String.ofList ds)
  | _ => none

/-- The command of a directive and its number, read from a line. -/
def readDirective? (s : List Char) : Option Parts := do
  let afterMark ← afterMark? s
  let body ← afterFolded? "BSLINT_".toList (afterMark.dropWhile (· == ' '))
  let command := body.takeWhile isNameStart
  if command.isEmpty then none
  return .directive (String.ofList command) (directiveParam? (body.dropWhile isNameStart))

/-- Whether a text starts with a comment: unlike an apostrophe, `rem` has to end a word. -/
def startsRemark (s : List Char) : Bool :=
  match s with
  | '\'' :: _ => true
  | s => match afterFolded? ['r', 'e', 'm'] s with
    | some rest => Text.startsOutsideWord rest
    | none => false

/-- The number at the head of a text: digits, and then perhaps a point with digits after it. -/
def readNumber (s : List Char) : List Char :=
  let whole := s.takeWhile Text.isDigit
  match s.dropWhile Text.isDigit with
  | '.' :: d :: rest =>
    if Text.isDigit d then whole ++ '.' :: (d :: rest).takeWhile Text.isDigit else whole
  | _ => whole

/-- Reads the identifier at the head of a text. -/
def readIdent? (s : List Char) : Option (List Char × Parts) :=
  match s with
  | c :: _ =>
    if isNameStart c then
      let value := s.takeWhile isNameChar
      let suffix := ((s.dropWhile isNameChar).take 1).filter isTypeSign
      some (value ++ suffix, .ident (String.ofList value) (String.ofList suffix))
    else none
  | [] => none

/-- Reads the string at the head of a text. It ends on the line on which it starts. -/
def readQuoted? (s : List Char) : Option (List Char × Parts) :=
  match s with
  | '"' :: s =>
    let value := s.takeWhile fun c => c != '"' && c != '\n'
    match s.dropWhile fun c => c != '"' && c != '\n' with
    | '"' :: _ => some ('"' :: value ++ ['"'], .quoted (String.ofList value))
    | _ => none
  | _ => none

/-- Reads a piece of the given shape at the head of a text. -/
def Shape.read? (sh : Shape) (s : List Char) : Option (List Char × Parts) :=
  match sh with
  | .lineFeed => if s.head? = some '\n' then some (['\n'], .plain) else none
  | .blank => match s with
    | c :: _ => if Text.isBlank c then some ([c], .plain) else none
    | [] => none
  | .sign t => if t.toList.isPrefixOf s then some (t.toList, .plain) else none
  | .word t => match afterFolded? t.toList s with
    | some rest => if Text.startsOutsideWord rest then some (s.take t.toList.length, .plain) else none
    | none => none
  | .directive => (readDirective? s).map (Text.firstLine s, ·)
  | .remark => if startsRemark s then some (Text.firstLine s, .plain) else none
  | .ident => readIdent? s
  | .quoted => readQuoted? s
  | .number => let t := readNumber s; if t.isEmpty then none else some (t, .plain)

/-! ### Rules and lexemes -/

/-- A shape with what its pieces count as, and by how much they move the indentation. -/
structure Rule where
  shape : Shape
  kind : Kind
  symbol : Symbol
  shift : Int := 0
deriving DecidableEq, Repr

/-- A piece of a source text. -/
structure Lexeme where
  text : List Char
  parts : Parts
  kind : Kind
  symbol : Symbol
  shift : Int
deriving DecidableEq, Repr

/-- The lexeme that a rule reads at the head of a text. -/
def Rule.read? (r : Rule) (s : List Char) : Option Lexeme :=
  (r.shape.read? s).map fun (text, parts) => ⟨text, parts, r.kind, r.symbol, r.shift⟩

end BrightLint
