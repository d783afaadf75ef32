import BrightLint.Pattern.Basic
import BrightLint.Text.Numeral
import BrightLint.Text.Find

/-!
The options of the command line. A long option may be shortened as long as it stays the only one,
and takes its value after `=` or as the next word; short options may be written in one word, and
the value may follow in it.

* `Arg.ofText?`: what a word of the command line is
* `spread?`: the options written in one word
* `Request.ofArgs`: what a command line asks for
-/

namespace BrightLint

/-- The version of the linter. -/
def version : String := "1.0.2"

/-- The options. -/
inductive Flag where
  | help | path | lex | version
deriving DecidableEq, Repr

namespace Flag

def all : List Flag := [.help, .path, .lex, .version]

/-- The long form of an option, without its two hyphens. -/
def long : Flag → List Char
  | help => "help".toList
  | path => "path".toList
  | lex => "lex".toList
  | version => "version".toList

/-- The letter of the short form. -/
def letter (f : Flag) : Option Char := f.long.head?

def ofLetter? (c : Char) : Option Flag := all.find? (·.letter == some c)

def takesValue : Flag → Bool
  | path => true
  | _ => false

end Flag

/-- A value that is written in one word with its option; `isMarked` says whether `=` divides
them. -/
structure Attached where
  isMarked : Bool
  text : List Char
deriving DecidableEq, Repr

/-- A word of the command line. -/
inductive Arg where
  | value (text : List Char)
  /-- The word after which there are no options. -/
  | separator
  /-- A word that looks like an option but is none. -/
  | unknown
  | long (f : Flag) (attached : Option Attached)
  | short (f : Flag) (attached : Option Attached)
deriving DecidableEq, Repr

namespace Arg

/-- A number below zero, which is not taken for an option. -/
def negative : Pattern :=
  let digit := Pattern.one Text.isDigit
  .seq (.char '-') (.either (.seq (.many1 digit) .stop)
    (.chain [.many digit, .char '.', .many1 digit, .stop]))

/-- What follows the first `=` of a word. -/
def attachedTo (word : List Char) : Option Attached :=
  match word.dropWhile (· != '=') with
  | [] => none
  | _ :: v => some ⟨true, v⟩

/-- What a word is that starts with a hyphen but with no option. -/
def ofPlain (word : List Char) : Arg :=
  if negative.fits word || word.contains ' ' then value word else unknown

/-- What a word of the command line is. A long option that can be completed in several ways is
none at all. -/
def ofText? (word : List Char) : Option Arg :=
  match word with
  | ['-', '-'] => some separator
  | '-' :: '-' :: rest =>
    let stem := rest.takeWhile (· != '=')
    match Flag.all.filter (stem.isPrefixOf ·.long) with
    | [] => some (ofPlain word)
    | [f] => some (long f (attachedTo rest))
    | _ => none
  | '-' :: c :: rest =>
    match Flag.ofLetter? c, rest with
    | none, _ => some (ofPlain word)
    | some f, [] => some (short f none)
    | some f, '=' :: v => some (short f (some ⟨true, v⟩))
    | some f, v => some (short f (some ⟨false, v⟩))
  | _ => some (value word)

/-- What the words of a command line are. Nothing after a separator is an option. -/
def ofTexts? : List (List Char) → Option (List Arg)
  | [] => some []
  | word :: words =>
    match ofText? word with
    | none => none
    | some separator => some (separator :: words.map value)
    | some a => (ofTexts? words).map (a :: ·)

end Arg

/-! ### Options in one word -/

/-- The options of one word: those without a value, in order, and then the one that ends the
word, with its value if the word has it. The last is missing if a letter stands for no option. -/
structure Spread where
  plain : List Flag := []
  last : Option (Flag × Option (List Char)) := none
deriving DecidableEq, Repr

/-- The options of a word that starts with an option and something attached to it. What is
attached to an option without a value are more options, unless it is marked as a value. -/
def spread? (f : Flag) (isMarked : Bool) (text : List Char) : Option Spread :=
  if f.takesValue then some { last := some (f, some text) }
  else match text with
    | [] => none
    | c :: rest =>
      if isMarked || c == '-' then none
      else match Flag.ofLetter? c, rest with
        | none, _ => some { plain := [f] }
        | some g, [] => some { plain := [f], last := some (g, none) }
        | some g, '=' :: v => (spread? g true v).map fun s => { s with plain := f :: s.plain }
        | some g, v => (spread? g false v).map fun s => { s with plain := f :: s.plain }
termination_by text.length
decreasing_by all_goals (simp only [List.length_cons]; omega)

/-! ### Whole command lines -/

/-- What a run is asked to do. -/
structure Options where
  path : Option (List Char) := none
  /-- Whether the code is only read and not parsed. -/
  lexOnly : Bool := false
deriving DecidableEq, Repr

/-- What a command line asks for. -/
inductive Request where
  | lint (o : Options)
  | version
  | help
  | misuse
deriving DecidableEq, Repr

namespace Request

/-- The exit code of a request that is not a run. -/
def exitCode? : Request → Option Nat
  | lint _ => none
  | version | help => some 0
  | misuse => some 2

/-- What is printed at once for a request. -/
def told : Request → String
  | version => BrightLint.version ++ "\n"
  | _ => ""

/-- Takes an option without a value into account. A request to be told something ends the
command line. -/
def take (f : Flag) (o : Options) : Except Request Options :=
  match f with
  | .lex => .ok { o with lexOnly := true }
  | .version => .error version
  | .help => .error help
  | .path => .error misuse

/-- Takes the options of a word into account. -/
def takeAll : List Flag → Options → Except Request Options
  | [], o => .ok o
  | f :: fs, o => (take f o).bind (takeAll fs)

/-- What the words of a command line ask for, when `o` is what the words before asked for.
`isLoose` says whether a word before them had no use. -/
def ofArgsFrom (o : Options) (isLoose : Bool) : List Arg → Request
  | [] => if isLoose then misuse else lint o
  | .value _ :: args | .separator :: args | .unknown :: args => ofArgsFrom o true args
  | .long f (some v) :: args =>
    if f.takesValue then ofArgsFrom { o with path := some v.text } isLoose args else misuse
  | .short f (some v) :: args =>
    match spread? f v.isMarked v.text with
    | none => misuse
    | some s => endWord o isLoose s.plain s.last args
  | .long f none :: args | .short f none :: args => endWord o isLoose [] (some (f, none)) args
where
  /-- Goes on after the options of a word. The last of them may need the next word. -/
  endWord (o : Options) (isLoose : Bool) (plain : List Flag)
      (last : Option (Flag × Option (List Char))) (args : List Arg) : Request :=
    match last, args with
    | none, args =>
      match takeAll plain o with
      | .error r => r
      | .ok o => ofArgsFrom o true args
    | some (_, some v), args =>
      match takeAll plain o with
      | .error r => r
      | .ok o => ofArgsFrom { o with path := some v } isLoose args
    | some (f, none), args =>
      if f.takesValue then
        match args with
        | .value v :: args =>
          match takeAll plain o with
          | .error r => r
          | .ok o => ofArgsFrom { o with path := some v } isLoose args
        | _ => misuse
      else
        match takeAll (plain ++ [f]) o with
        | .error r => r
        | .ok o => ofArgsFrom o isLoose args

/-- What a command line asks for. -/
def ofArgs (words : List String) : Request :=
  match Arg.ofTexts? (words.map String.toList) with
  | some args => ofArgsFrom {} false args
  | none => misuse

end Request

end BrightLint
