import BrightLint.Json.Basic

/-!
Reading a settings value from the text of a file. A text is read as a whole or not at all: what
follows the value may only be white space. Of two fields with one key the later value counts, at
the place of the earlier. A number with a fraction or an exponent is read as the stored number that
is nearest to it.
-/

namespace BrightLint.Json.Reader

/-- The white space of the format. -/
def isSpace (c : Char) : Bool := c == ' ' || c == '\t' || c == '\n' || c == '\r'

def skipSpace (s : List Char) : List Char := s.dropWhile isSpace

/-! ### Numbers -/

def digitsValue (ds : List Char) : Nat := ds.foldl (fun n d => 10 * n + (d.toNat - '0'.toNat)) 0

/-- The digits at the start of a text, and what follows them. -/
def digits (s : List Char) : List Char × List Char := s.span Char.isDigit

/-- The digits before the point; if there is more than one, the first is not zero. -/
def wholeDigits? : List Char → Option (List Char × List Char)
  | '0' :: rest => some (['0'], rest)
  | s => if (digits s).1.isEmpty then none else some (digits s)

/-- The digits of a fraction, if there are any after the point. -/
def fraction : List Char → List Char × List Char
  | '.' :: s => if (digits s).1.isEmpty then ([], '.' :: s) else digits s
  | s => ([], s)

/-- The sign of an exponent. -/
def exponentSign : List Char → Int × List Char
  | '-' :: s => (-1, s)
  | '+' :: s => (1, s)
  | s => (1, s)

/-- The exponent, if there are digits after its mark. -/
def exponent? : List Char → Option Int × List Char
  | c :: s =>
    let (sign, rest) := exponentSign s
    let (ds, rest) := digits rest
    if (c == 'e' || c == 'E') && !ds.isEmpty then (some (sign * digitsValue ds), rest)
    else (none, c :: s)
  | [] => (none, [])

/-- How many digits a whole number may have. -/
def digitLimit : Nat := 4300

/-- Reads a number after its sign. -/
def unsigned? (isNegative : Bool) (s : List Char) : Option (Json × List Char) := do
  let (whole, rest) ← wholeDigits? s
  let (part, rest) := fraction rest
  let (power?, rest) := exponent? rest
  if part.isEmpty && power?.isNone then
    if digitLimit < whole.length then none
    let n : Int := digitsValue whole
    return (.int (if isNegative then -n else n), rest)
  else
    let x := Decimal.value ⟨digitsValue (whole ++ part), power?.getD 0 - part.length⟩
    return (.float (if isNegative then -x else x), rest)

def number? : List Char → Option (Json × List Char)
  | '-' :: s => unsigned? true s
  | s => unsigned? false s

/-! ### Texts -/

def hexValue? (c : Char) : Option Nat :=
  if c.isDigit then some (c.toNat - '0'.toNat)
  else if 'a' ≤ c ∧ c ≤ 'f' then some (c.toNat - 'a'.toNat + 10)
  else if 'A' ≤ c ∧ c ≤ 'F' then some (c.toNat - 'A'.toNat + 10)
  else none

/-- Reads the four digits of a code unit. -/
def unit? : List Char → Option (Nat × List Char)
  | a :: b :: c :: d :: rest => do
    let w ← hexValue? a
    let x ← hexValue? b
    let y ← hexValue? c
    let z ← hexValue? d
    return (((w * 16 + x) * 16 + y) * 16 + z, rest)
  | _ => none

/-- The character of an escape that is one letter long. -/
def simpleEscape? (c : Char) : Option Char :=
  [('"', '"'), ('\\', '\\'), ('/', '/'), ('b', '\x08'), ('f', '\x0c'), ('n', '\n'), ('r', '\r'),
    ('t', '\t')].lookup c

/-- The second half of a character, if it follows the first. -/
def secondHalf? : List Char → Option (Nat × List Char)
  | '\\' :: 'u' :: s => (unit? s).filter fun (n, _) => 0xDC00 ≤ n && n < 0xE000
  | _ => none

/-- Reads an escape after its backslash. Two units that are halves of one character are read
together; a half alone is kept as it is. -/
def escape? : List Char → Option (Text.Point × List Char)
  | 'u' :: s => do
    let (n, rest) ← unit? s
    if 0xD800 ≤ n && n < 0xDC00 then
      if let some (m, rest) := secondHalf? rest then
        return (.whole (Char.ofNat (0x10000 + (n - 0xD800) * 0x400 + (m - 0xDC00))), rest)
    return (.ofCode n, rest)
  | c :: rest => (simpleEscape? c).map fun d => (.whole d, rest)
  | [] => none

/-- Reads a text after its opening mark, what was read so far being given in reverse. Control
characters stand for themselves nowhere. -/
def textFrom? : Nat → List Text.Point → List Char → Option (List Text.Point × List Char)
  | 0, _, _ => none
  | fuel + 1, sofar, s =>
    match s with
    | [] => none
    | '"' :: rest => some (sofar.reverse, rest)
    | '\\' :: rest => match escape? rest with
      | some (p, rest) => textFrom? fuel (p :: sofar) rest
      | none => none
    | c :: rest => if c.toNat < 0x20 then none else textFrom? fuel (.whole c :: sofar) rest

def text? (s : List Char) : Option (Key × List Char) :=
  (textFrom? (s.length + 1) [] s).map fun (ps, rest) => (.ofPoints ps, rest)

/-! ### Values -/

/-- Reads a word that stands for a value. -/
def word? (s : List Char) : Option (Json × List Char) :=
  [("null", Json.null), ("true", .bool true), ("false", .bool false), ("NaN", .float (0 / 0)),
    ("Infinity", .float (1 / 0)), ("-Infinity", .float (-1 / 0))].findSome? fun (w, v) =>
    (w.toList.isPrefixOf? s).map (v, ·)

mutual

/-- Reads a value; the first number bounds how deep and how long it may be. -/
def value? : Nat → List Char → Option (Json × List Char)
  | 0, _ => none
  | fuel + 1, s =>
    match s with
    | '"' :: rest => (text? rest).map fun (t, rest) => (t.value, rest)
    | '[' :: rest =>
      match skipSpace rest with
      | ']' :: rest => some (.arr [], rest)
      | rest => (items? fuel rest).map fun (xs, rest) => (.arr xs, rest)
    | '\x7b' :: rest =>
      match skipSpace rest with
      | '\x7d' :: rest => some (.obj [], rest)
      | rest => (fields? fuel [] rest).map fun (fs, rest) => (.obj fs, rest)
    | s => (word? s).or (number? s)

/-- Reads the items of a list up to its closing bracket. -/
def items? : Nat → List Char → Option (List Json × List Char)
  | 0, _ => none
  | fuel + 1, s => do
    let (x, rest) ← value? fuel s
    match skipSpace rest with
    | ']' :: rest => return ([x], rest)
    | ',' :: rest => do
      let (xs, rest) ← items? fuel (skipSpace rest)
      return (x :: xs, rest)
    | _ => none

/-- Reads the fields of an object up to its closing brace, those before them being given. -/
def fields? : Nat → List (Key × Json) → List Char → Option (List (Key × Json) × List Char)
  | 0, _, _ => none
  | fuel + 1, sofar, s =>
    match s with
    | '"' :: s => do
      let (key, rest) ← text? s
      match skipSpace rest with
      | ':' :: rest => do
        let (v, rest) ← value? fuel (skipSpace rest)
        let sofar := insert key v sofar
        match skipSpace rest with
        | '\x7d' :: rest => return (sofar, rest)
        | ',' :: rest => fields? fuel sofar (skipSpace rest)
        | _ => none
      | _ => none
    | _ => none

end

end Reader

/-- The value that a text stands for. -/
def ofText? (s : String) : Option Json :=
  match Reader.value? (s.length + 1) (Reader.skipSpace s.toList) with
  | some (v, rest) => if (Reader.skipSpace rest).isEmpty then some v else none
  | none => none

end BrightLint.Json
