/-!
# Text in bytes

Text is stored as UTF-8.  Bytes that are not the encoding of any text are
refused.
-/

namespace EstateFiling.Text

/-- The text that bytes encode, if they encode one. -/
def ofUtf8? (bytes : List UInt8) : Option String := String.fromUTF8? bytes.toByteArray

/-- The bytes that encode a text. -/
def toUtf8 (s : String) : List UInt8 := s.toUTF8.toList

end EstateFiling.Text
