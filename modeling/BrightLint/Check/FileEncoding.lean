import BrightLint.Check.Basic
import BrightLint.Text.Encoding

/-!
The encoding of a source file: the bytes have to be readable in the encoding that the settings
name. Three encodings are known here; what others there are, and which bytes they allow, is given
from outside, as the dictionary is.
-/

namespace BrightLint

/-- The other encodings: for the name of one, whether it allows the bytes of a file, which may also
end in a fault of its own. -/
abbrev Codecs := String → Option (ByteArray → Except Fault Bool)

namespace Check

/-- Whether the encoding that the settings name allows the bytes of a file. Where they name none,
the file has to be a text in UTF-8, to its end; a name with a null character, or with half a
character, allows nothing. -/
def isReadable (codecs : Codecs) (name : Json) (bytes : ByteArray) : Except Fault Bool :=
  match name with
  | .null => .ok (Text.Encoding.utf8.decode? bytes).isSome
  | .halved _ => .ok false
  | .str name =>
    if name.toList.contains '\x00' then .ok false
    else match Text.Encoding.ofName? name, codecs name with
      | some e, _ => .ok (e.allows bytes)
      | none, some allows => allows bytes
      | none, none => .error .unknownEncoding
  | _ => .error .wrongType

/-- Complains of bytes that the encoding does not allow. A character that is cut off at the end is
passed over. -/
def findEncoding (codecs : Codecs) (s : Settings) (bytes : ByteArray) : Verdict :=
  whenActive s .fileEncoding do
    let name ← s.param .fileEncoding "source_file_encoding"
    if ← isReadable codecs name bytes then return none else complain .fileEncoding

end Check

end BrightLint
