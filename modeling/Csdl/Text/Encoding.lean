import Csdl.Text.Utf16

/-!
The encodings a document may come in. A byte order mark at the start of the bytes names the
encoding; bytes without one are UTF-8. The mark is not part of the text.
-/

namespace Csdl.Text

/-- The encodings that a byte order mark can name. -/
inductive Encoding where
  | utf8
  | utf16 (order : Utf16.ByteOrder)
  deriving DecidableEq, Repr

namespace Encoding

/-- The name of an encoding in a message. -/
def name : Encoding → String
  | utf8 => "UTF-8"
  | utf16 .little => "UTF-16LE"
  | utf16 .big => "UTF-16BE"

/-- The byte order mark of an encoding. -/
def mark : Encoding → List UInt8
  | utf8 => [0xEF, 0xBB, 0xBF]
  | utf16 .little => [0xFF, 0xFE]
  | utf16 .big => [0xFE, 0xFF]

/-- The bytes of a text, without a mark. -/
def encode : Encoding → String → List UInt8
  | utf8, text => text.toUTF8.toList
  | utf16 order, text => Utf16.encode order text

/-- The text of bytes without a mark, if they are well formed. -/
def decode? : Encoding → List UInt8 → Option String
  | utf8, bytes => String.fromUTF8? (ByteArray.mk bytes.toArray)
  | utf16 order, bytes => Utf16.decode? order bytes

/-- The encoding that the start of the bytes names, and the bytes behind the mark. -/
def split : List UInt8 → Encoding × List UInt8
  | 0xEF :: 0xBB :: 0xBF :: rest => (utf8, rest)
  | 0xFF :: 0xFE :: rest => (utf16 .little, rest)
  | 0xFE :: 0xFF :: rest => (utf16 .big, rest)
  | bytes => (utf8, bytes)

theorem split_mark_append (encoding : Encoding) (bytes : List UInt8) :
    split (encoding.mark ++ bytes) = (encoding, bytes) := by
  rcases encoding with _ | _ | _ <;> rfl

end Encoding

end Csdl.Text
