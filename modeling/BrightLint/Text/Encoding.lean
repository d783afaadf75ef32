/-!
The encodings in which a source file may be stored.

* `Encoding.decode?`: the text of a file; bytes that the encoding does not allow are not read
* `Encoding.allows`: whether bytes can be the beginning of a file
-/

namespace BrightLint.Text

inductive Encoding where
  | ascii
  | utf8
  | latin1
deriving DecidableEq, Repr

namespace Encoding

/-- A name with its letters in lower case, and with an underscore for whatever stands between
letters, digits and points; what is given is whether something else came last. -/
def normalFrom (isApart : Bool) : List Char → List Char
  | [] => []
  | c :: s =>
    if c.isAlphanum || c == '.' then
      (if isApart then ['_'] else []) ++ c.toLower :: normalFrom false s
    else normalFrom true s

/-- The name of an encoding as it is looked up. -/
def normalName (name : String) : String :=
  String.ofList (normalFrom false (name.toList.dropWhile fun c => !c.isAlphanum && c != '.'))

/-- The encodings by name. -/
def names : List (String × Encoding) :=
  [("ascii", .ascii), ("646", .ascii), ("ansi_x3.4_1968", .ascii), ("ansi_x3.4_1986", .ascii),
   ("ansi_x3_4_1968", .ascii), ("cp367", .ascii), ("csascii", .ascii), ("ibm367", .ascii),
   ("iso646_us", .ascii), ("iso_646.irv_1991", .ascii), ("iso_ir_6", .ascii), ("us", .ascii),
   ("us_ascii", .ascii),
   ("utf_8", .utf8), ("cp65001", .utf8), ("u8", .utf8), ("utf", .utf8), ("utf8", .utf8),
   ("utf8_ucs2", .utf8), ("utf8_ucs4", .utf8),
   ("latin_1", .latin1), ("8859", .latin1), ("cp819", .latin1), ("csisolatin1", .latin1),
   ("ibm819", .latin1), ("iso8859", .latin1), ("iso8859_1", .latin1), ("iso_8859_1", .latin1),
   ("iso_8859_1_1987", .latin1), ("iso_ir_100", .latin1), ("l1", .latin1), ("latin", .latin1),
   ("latin1", .latin1)]

/-- The names under which encodings are stored, which have to be given without points. -/
def mainNames : List String := ["ascii", "utf_8", "latin_1"]

/-- The encoding of a name. A point may stand for an underscore, but not in a main name. -/
def ofName? (name : String) : Option Encoding :=
  let name := normalName name
  match names.lookup name with
  | some e => some e
  | none =>
    let dotless := String.ofList (name.toList.map fun c => if c == '.' then '_' else c)
    if mainNames.contains dotless then none else names.lookup dotless

/-- The text that the bytes stand for, if the encoding allows them. -/
def decode? (e : Encoding) (bytes : ByteArray) : Option String :=
  match e with
  | .ascii =>
    if bytes.toList.all (· < 0x80) then
      some (String.ofList (bytes.toList.map fun b => Char.ofNat b.toNat))
    else none
  | .utf8 => String.fromUTF8? bytes
  | .latin1 => some (String.ofList (bytes.toList.map fun b => Char.ofNat b.toNat))

/-! ### Unfinished files -/

/-- Whether a byte continues a character of UTF-8. -/
def isContinuation (b : UInt8) : Bool := 0x80 ≤ b && b ≤ 0xBF

/-- Whether a byte may be the second of an unfinished character of UTF-8 that starts with a given
byte and takes at least three. The numbers set aside for surrogates are told from others only when
they are finished. -/
def isSecond (a b : UInt8) : Bool :=
  isContinuation b &&
    (if a == 0xE0 then 0xA0 ≤ b else if a == 0xF0 then 0x90 ≤ b
      else if a == 0xF4 then b ≤ 0x8F else true)

/-- Whether bytes are the beginning of a character of UTF-8 but not all of it. -/
def isUnfinished : List UInt8 → Bool
  | [a] => 0xC2 ≤ a && a ≤ 0xF4
  | [a, b] => 0xE0 ≤ a && a ≤ 0xF4 && isSecond a b
  | [a, b, c] => 0xF0 ≤ a && a ≤ 0xF4 && isSecond a b && isContinuation c
  | _ => false

/-- Whether the encoding allows the bytes as the beginning of a file: the last character need not
be finished. -/
def allows (e : Encoding) (bytes : ByteArray) : Bool :=
  (e.decode? bytes).isSome || match e with
    | .utf8 => [1, 2, 3].any fun n =>
      let cut := bytes.size - n
      isUnfinished (bytes.extract cut bytes.size).toList &&
        (e.decode? (bytes.extract 0 cut)).isSome
    | _ => false

end Encoding

end BrightLint.Text
