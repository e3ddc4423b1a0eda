/-!
# ASCII spellings

Identifiers in case records are compared after folding the letters `A` to `Z`;
letters outside ASCII are left as they are.  Digits are the ten ASCII digits.
-/

namespace EstateFiling.Text

/-- A text with the letters `A` to `Z` in lower case. -/
def lower (s : String) : String := String.ofList (s.toList.map Char.toLower)

/-- Whether two texts agree up to the case of the letters `A` to `Z`. -/
def equalsIgnoringCase (s t : String) : Bool := lower s == lower t

/-- A text with every character of a class replaced by one character. -/
def replaceChars (old : Char → Bool) (new : Char) (s : String) : String :=
  String.ofList (s.toList.map (fun c => if old c then new else c))

/-- Whether a text begins with another. -/
def startsWith (s start : String) : Bool := start.toList.isPrefixOf s.toList

/-- The number that a list of ASCII digits writes. -/
def digitsValue (ds : List Char) : Nat :=
  ds.foldl (fun n d => 10 * n + (d.toNat - 48)) 0

/-- The number that a non-empty list of ASCII digits writes. -/
def natOfDigits? (ds : List Char) : Option Nat :=
  if ds.isEmpty || !ds.all Char.isDigit then none else some (digitsValue ds)

/-- The digits of a number, at least `width` of them. -/
def paddedNat (width n : Nat) : List Char :=
  let digits := Nat.toDigits 10 n
  List.replicate (width - digits.length) '0' ++ digits

/-- The value of a hexadecimal digit. -/
def hexDigit? (c : Char) : Option Nat :=
  if c.isDigit then some (c.toNat - 48)
  else if 'a' ≤ c && c ≤ 'f' then some (c.toNat - 87)
  else if 'A' ≤ c && c ≤ 'F' then some (c.toNat - 55)
  else none

/-- A number below a bound written in decimal: ASCII digits with an optional
leading plus sign, and nothing else. -/
def boundedNat? (bound : Nat) (cs : List Char) : Option Nat := do
  let digits := match cs with
    | '+' :: rest => rest
    | _ => cs
  let n ← natOfDigits? digits
  if n < bound then some n else none

end EstateFiling.Text
