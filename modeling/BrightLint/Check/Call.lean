import BrightLint.Check.Comment
import BrightLint.Check.Declaration
import BrightLint.Check.Indentation
import BrightLint.Check.Line
import BrightLint.Check.Operator
import BrightLint.Check.Spelling

/-!
Calls of single checks from outside, with arguments of any type. An argument is looked at no
earlier than the check needs it: an inactive check takes everything, and a fault of the settings
comes before a fault of an argument that is used later. An argument that is a text holds no halves
of characters.

* `Check.Call`: the checks with their arguments
* `Check.Call.run`: the answer to a call, and the words that the dictionary was asked about
-/

namespace BrightLint.Check

/-! ### Arguments -/

/-- An argument that has to be a text. -/
def textArgument : Json → Except Fault (List Char)
  | .str t => .ok t.toList
  | _ => .error .wrongType

/-- The length of an argument: of a text, a list or an object. -/
def lengthArgument (v : Json) : Except Fault Nat :=
  match v.items? with
  | some items => .ok items.length
  | none => .error .wrongType

/-- An argument that is run through piece by piece: a text by its characters, a list of texts by
its items. An object with anything in it has nothing under a number. -/
def piecesArgument : Json → Except Fault (List (List Char))
  | .str t => .ok (t.toList.map ([·]))
  | .arr items => items.mapM fun
    | .str t => .ok t.toList
    | _ => .error .notText
  | .obj [] => .ok []
  | .obj _ => .error .missingKey
  | _ => .error .wrongType

/-! ### Words -/

/-- Whether a piece is made of letters, and whether they are small ones or capitals. -/
def isLetters (w : List Char) : Bool := !w.isEmpty && w.all Text.isLetter

def isSmall : List Char → Bool
  | [c] => Text.isLower c
  | w => Text.allSmall w

def isCapital : List Char → Bool
  | [c] => Text.isUpper c
  | w => Text.allCapitals w

/-- The words made of pieces that go on from a word already begun, which is given in reverse. -/
def pieceWordsFrom (word : List Char) : List (List Char) → List (List Char)
  | [] => flush word
  | w :: ws =>
    if !isLetters w then flush word ++ pieceWordsFrom [] ws
    else if isSmall w then pieceWordsFrom (w.reverse ++ word) ws
    else if isCapital w then flush word ++ pieceWordsFrom w.reverse ws
    else pieceWordsFrom word ws

/-- The words of an argument, as those of a comment or of an identifier. -/
def wordsOf (v : Json) (isComment : Bool) : Except Fault (List (List Char)) :=
  if isComment then
    match v with
    | .str t => .ok (commentWords t.toList)
    | _ => .error .notText
  else (piecesArgument v).map (pieceWordsFrom [])

/-! ### Calls -/

/-- A call of a check. -/
inductive Call where
  | missingComma
  | trailingComma
  | tracing
  | skipFile
  | comment (text : Json)
  | declaration (text : Json)
  | trailingBlank (text : Json)
  | lineLength (length : Json)
  | emptyLines (count : Json)
  | skipLine (line : Json)
  | indentation (level text shift : Json)
  | operator (text place op : Json)
  | spelling (text kind : Json)
  | identWords (text : Json)
  | commentWords (text : Json)
  | activity (key : Json)

/-- The answer to a call. -/
inductive Answer where
  | nothing
  | complaint (c : Complaint)
  | value (v : Json)
  /-- The complaint about a line, if there is one, and the level after it. -/
  | level (c : Option Complaint) (level : Json)

def Answer.ofVerdict (v : Verdict) : Except Fault Answer := v.map fun
  | some c => complaint c
  | none => nothing

/-- A check that is only made when it is active. -/
def Answer.whenActive (s : Settings) (c : Check) (body : Except Fault Answer) :
    Except Fault Answer := do
  if ← s.isActive c then body else return nothing

namespace Call

/-- The check of a comment. What is not a text can still be told that no comments are allowed. -/
def runComment (s : Settings) : Json → Verdict
  | .str t => findComment s t.toList
  | _ => BrightLint.whenActive s .comment do
    match ← commentRules s with
    | (false, false, _) => complain .noComments
    | (true, false, format) => (formatTest format).bind fun _ => .error .wrongType
    | _ => .error .wrongType

/-- The check of what follows `function` or `sub`. -/
def runDeclaration (s : Settings) : Json → Verdict
  | .str t => findDeclarationSpacing s t.toList
  | _ => BrightLint.whenActive s .declarationSpacing (.error .wrongType)

/-- The check of the end of a line. A list ends in its last item. -/
def runTrailingBlank (s : Settings) : Json → Verdict
  | .str t => findTrailingBlank s t.toList
  | v => BrightLint.whenActive s .trailingBlank <| match v with
    | .arr items => match items.getLast? with
      | some last => if last.same (.str " ") then complain .trailingBlank else .ok none
      | none => .error .badIndex
    | .obj _ => .error .missingKey
    | _ => .error .wrongType

/-- The check of the indentation of a line. A level is looked at as a number only where it
changes. -/
def runIndentation (s : Settings) (level text shift : Json) : Except Fault Answer :=
  Answer.whenActive s .indentation do
    if (← lengthArgument text) = 0 then return .nothing
    let move (n : Int) (v : Json) : Except Fault Json := v.plus (.int n)
    let isShift (n : Int) : Bool := shift.same (.int n)
    let here ← if isShift (-1) || isShift 2 then move (-1) level else .ok level
    let (fits, complaint) ← indentRule s here
    let line ← textArgument text
    let after ← if isOneLineIf line then move (-1) here else .ok here
    let after ← if isShift 1 || isShift 2 then move 1 after else .ok after
    return .level (if fits line then none else some complaint) after

/-- The check of the spaces around an operator. A list can be cut at the operator, but then it is
no text. -/
def runOperator (s : Settings) (text place op : Json) : Verdict :=
  BrightLint.whenActive s .operatorSpacing do
    let spaces ← s.param .operatorSpacing "spaces_around_operators"
    let _ ← place.plus spaces
    let place ← place.number
    let _ ← spaces.number
    match text, op with
    | .str t, .str o => findOperatorSpacing s t.toList place o.toList
    | .arr _, .str _ => (operatorGap spaces).bind fun _ => .error .wrongType
    | _, _ => .error .wrongType

/-- The check of the spelling of a text of a kind. -/
def runSpelling (s : Settings) (knows : Dictionary) (text kind : Json) :
    Except Fault (Answer × List String) := do
  if !(← s.isActive .spelling) then return (.nothing, [])
  let words ← wordsOf text (kind.same (.str Kind.comment.name))
  let (asked, wrong) := askUntil knows (words.map String.ofList)
  return (if wrong then .complaint ⟨.spelling, []⟩ else .nothing, asked)

/-- A list of words as a value. -/
def wordList (words : List (List Char)) : Json := .arr (words.map fun w => .str (String.ofList w))

/-- The answer to a call. -/
def answer (s : Settings) (knows : Dictionary) : Call → Except Fault Answer
  | missingComma => Answer.ofVerdict (findMissingComma s)
  | trailingComma => Answer.ofVerdict (findTrailingComma s)
  | tracing => Answer.ofVerdict (findTracing s)
  | skipFile => (skipsFile s).map .value
  | comment text => Answer.ofVerdict (runComment s text)
  | declaration text => Answer.ofVerdict (runDeclaration s text)
  | trailingBlank text => Answer.ofVerdict (runTrailingBlank s text)
  | lineLength n => Answer.ofVerdict (findLongLine s n)
  | emptyLines n => Answer.ofVerdict (findEmptyLines s n)
  | skipLine line => Answer.whenActive s .skipLine ((line.plus (.int 1)).map .value)
  | indentation level text shift => runIndentation s level text shift
  | operator text place op => Answer.ofVerdict (runOperator s text place op)
  | spelling text kind => (runSpelling s knows text kind).map Prod.fst
  | identWords text => (wordsOf text false).map fun ws => .value (wordList ws)
  | commentWords text => (wordsOf text true).map fun ws => .value (wordList ws)
  | activity key => (s.activity key).map .value

/-- The answer to a call, and the words that the dictionary was asked about. -/
def run (s : Settings) (knows : Dictionary) (call : Call) : Except Fault (Answer × List String) :=
  match call with
  | spelling text kind => runSpelling s knows text kind
  | call => (call.answer s knows).map (·, [])

end Call

end BrightLint.Check
