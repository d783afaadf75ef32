import BrightLint.Quantity
import BrightLint.Text.Point
import BrightLint.Text.Visible

/-!
The values of a settings file. A user may write any value anywhere, so a value is looked at by
total functions that say what each kind of value counts as.

* `isTrue`: which values count as true
* `asInt?`, `quantity?`: which values count as numbers
* `items?`: what a value contains when it is run through
* `get`: the value of a key
* `same`: when two values count as equal
* `text`: how a value is written into a message
-/

namespace BrightLint

/-- The key of a field: a text, which may hold halves of characters. -/
inductive Json.Key where
  | text (s : String)
  | halved (t : Text.Halved)
deriving DecidableEq, Repr

instance : Coe String Json.Key := ⟨.text⟩

/-- A settings value. An object keeps the order of its fields. -/
inductive Json where
  | null
  | bool (b : Bool)
  | int (n : Int)
  /-- A number that is written with a fraction or an exponent, or is infinite, or is none. -/
  | float (x : Float)
  | str (s : String)
  /-- A text that holds halves of characters. -/
  | halved (t : Text.Halved)
  | arr (items : List Json)
  | obj (fields : List (Json.Key × Json))
deriving Inhabited, Repr

namespace Json

/-- Null, false, zero and everything empty count as false. -/
def isTrue : Json → Bool
  | null => false
  | bool b => b
  | int n => n != 0
  | float x => x != 0
  | str s => !s.isEmpty
  | halved _ => true
  | arr items => !items.isEmpty
  | obj fields => !fields.isEmpty

/-- The whole number that a value counts as: true is one, false is zero. -/
def asInt? : Json → Option Int
  | int n => some n
  | bool b => some (if b then 1 else 0)
  | _ => none

/-- The number that a value counts as. -/
def quantity? : Json → Option Quantity
  | float x => some (.stored x)
  | v => v.asInt?.map .whole

def ofQuantity : Quantity → Json
  | .whole n => int n
  | .stored x => float x

/-! ### Texts -/

def asText? : Json → Option String
  | str s => some s
  | _ => none

/-- What a text is spelt out with. -/
def points? : Json → Option (List Text.Point)
  | str s => some (Text.points s)
  | halved t => some t.points
  | _ => none

namespace Key

/-- The key that points spell out. -/
def ofPoints (ps : List Text.Point) : Key :=
  if h : ps.any Text.Point.isHalf = true then halved ⟨ps, h⟩
  else text (String.ofList (ps.map Text.Point.shown))

/-- A key as a value. -/
def value : Key → Json
  | text s => str s
  | halved t => Json.halved t

end Key

/-- The text that points spell out. -/
def ofPoints (ps : List Text.Point) : Json := (Key.ofPoints ps).value

/-- A value as a key. Only a text can be one. -/
def asKey? : Json → Option Key
  | str s => some s
  | halved t => some (.halved t)
  | _ => none

/-! ### Contents -/

/-- What a value contains: the items of a list, the keys of an object, the characters of a text. -/
def items? : Json → Option (List Json)
  | arr items => some items
  | obj fields => some (fields.map fun f => f.1.value)
  | v => v.points?.map fun ps => ps.map fun p => ofPoints [p]

/-- The value that a list of fields gives to a key. -/
def field? (fields : List (Key × Json)) (key : Key) : Option Json := fields.lookup key

/-- Fields with the value of a key replaced, or with a new last field. -/
def insert (key : Key) (v : Json) : List (Key × Json) → List (Key × Json)
  | [] => [(key, v)]
  | (k, w) :: rest => if k == key then (k, v) :: rest else (k, w) :: insert key v rest

/-- The value of a key. Only an object has keys. -/
def get (key : String) : Json → Except Fault Json
  | obj fields => match field? fields key with
    | some v => .ok v
    | none => .error .missingKey
  | _ => .error .wrongType

/-- The value at the end of a path of keys. -/
def getPath : List String → Json → Except Fault Json
  | [], v => .ok v
  | key :: path, v => (v.get key).bind (getPath path)

/-! ### Equality -/

mutual

/-- Whether two values count as equal: numbers and truth values by the number they stand for,
objects without regard to the order of their fields. -/
def same : Json → Json → Bool
  | null, null => true
  | str s, str t => s == t
  | halved s, halved t => s == t
  | arr xs, arr ys => sameItems xs ys
  | obj xs, obj ys => xs.length == ys.length && sameFields xs ys
  | v, w => match v.quantity?, w.quantity? with
    | some q, some r => q.same r
    | _, _ => false

def sameItems : List Json → List Json → Bool
  | [], [] => true
  | x :: xs, y :: ys => same x y && sameItems xs ys
  | _, _ => false

def sameFields : List (Key × Json) → List (Key × Json) → Bool
  | [], _ => true
  | (k, v) :: rest, ys =>
    (match field? ys k with
      | some w => same v w
      | none => false) && sameFields rest ys

end

/-! ### Text -/

/-- The last `width` digits of a number to base sixteen. -/
def hexDigits (width n : Nat) : List Char :=
  (List.range width).reverse.map fun i => Nat.digitChar ((n >>> (4 * i)) % 16)

/-- The number of a character, behind a letter that tells how many digits it has. -/
def numbered (c : Char) : List Char :=
  let n := c.toNat
  if n < 0x100 then '\\' :: 'x' :: hexDigits 2 n
  else if n < 0x10000 then '\\' :: 'u' :: hexDigits 4 n
  else '\\' :: 'U' :: hexDigits 8 n

/-- A character inside a quoted text, the quotation mark being given. -/
def escaped (mark c : Char) : List Char :=
  if c == '\\' then ['\\', '\\']
  else if c == mark then ['\\', c]
  else if c == '\n' then ['\\', 'n']
  else if c == '\r' then ['\\', 'r']
  else if c == '\t' then ['\\', 't']
  else if Text.isVisible c then [c]
  else numbered c

/-- A point inside a quoted text. -/
def escapedPoint (mark : Char) : Text.Point → List Char
  | .whole c => escaped mark c
  | .half n => '\\' :: 'u' :: hexDigits 4 (Text.Point.half n).code

/-- A text in quotation marks: single ones, unless it holds a single one and no double one. -/
def quoted (ps : List Text.Point) : List Char :=
  let mark := if ps.contains (.whole '\'') && !ps.contains (.whole '"') then '"' else '\''
  mark :: ps.flatMap (escapedPoint mark) ++ [mark]

def quotedKey : Key → List Char
  | .text s => quoted (Text.points s)
  | .halved t => quoted t.points

/-- The words for the values that are neither numbers nor texts. -/
def trueWord : String := "True"
def falseWord : String := "False"
def nullWord : String := "None"

mutual

/-- A value as it stands inside another one. -/
def shown : Json → List Char
  | null => nullWord.toList
  | bool b => (if b then trueWord else falseWord).toList
  | int n => (toString n).toList
  | float x => (Decimal.written x).toList
  | str s => quoted (Text.points s)
  | halved t => quoted t.points
  | arr items => '[' :: shownItems true items ++ [']']
  | obj fields => '\x7b' :: shownFields true fields ++ ['\x7d']

def shownItems (first : Bool) : List Json → List Char
  | [] => []
  | x :: xs => (if first then [] else [',', ' ']) ++ shown x ++ shownItems false xs

def shownFields (first : Bool) : List (Key × Json) → List Char
  | [] => []
  | (k, v) :: xs =>
    (if first then [] else [',', ' ']) ++ quotedKey k ++ [':', ' '] ++ shown v ++
      shownFields false xs

end

/-- A value as it stands in a message: a text is not quoted. -/
def text : Json → String
  | str s => s
  | halved t => String.ofList (t.points.map Text.Point.shown)
  | v => String.ofList v.shown

/-- The same as it is spelt out. -/
def spelling : Json → List Text.Point
  | halved t => t.points
  | v => Text.points v.text

end Json

end BrightLint
