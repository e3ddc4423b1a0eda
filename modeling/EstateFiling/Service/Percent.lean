import EstateFiling.Text.Utf8

/-!
# Percent encoding

In a path, a percent sign and two hexadecimal digits stand for a byte.  A percent
sign without them stands for itself.
-/

namespace EstateFiling.Percent

/-- The value of a byte as a hexadecimal digit. -/
def hexDigit? (b : UInt8) : Option UInt8 :=
  if 48 ≤ b ∧ b ≤ 57 then some (b - 48)
  else if 65 ≤ b ∧ b ≤ 70 then some (b - 55)
  else if 97 ≤ b ∧ b ≤ 102 then some (b - 87)
  else none

/-- The bytes that bytes of a path stand for. -/
def decodeBytes : List UInt8 → List UInt8
  | 37 :: high :: low :: rest =>
      match hexDigit? high, hexDigit? low with
      | some h, some l => (16 * h + l) :: decodeBytes rest
      | _, _ => 37 :: decodeBytes (high :: low :: rest)
  | b :: rest => b :: decodeBytes rest
  | [] => []

/-- The text that a part of a path stands for. -/
def decode? (s : String) : Option String := Text.ofUtf8? (decodeBytes (Text.toUtf8 s))

end EstateFiling.Percent
