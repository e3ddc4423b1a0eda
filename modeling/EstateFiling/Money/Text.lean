import EstateFiling.Money.Basic
import EstateFiling.Text.Ascii
import EstateFiling.Text.Blank

/-!
# Amounts as text

`Money.parse?` reads an amount as people write it: dollar signs in front, commas
and blanks anywhere, and at most two decimals.  It reads no negative amount.
`Money.text` writes the plain amount and `Money.currency` the amount of a printed
form, with a dollar sign and commas between groups of three digits.
-/

namespace EstateFiling.Money

/-! ## Reading -/

/-- The characters of an amount without dollar signs in front, commas and
blanks. -/
def cleaned (s : String) : List Char :=
  ((Text.trimChars s.toList).dropWhile (· == '$')).filter
    (fun c => c != ',' && !Text.isBlank c)

/-- The cents that a fraction of at most two digits writes. -/
def fractionCents : List Char → Nat
  | [tenths] => 10 * Text.digitsValue [tenths]
  | ds => Text.digitsValue ds

/-- Reads an amount of dollars. -/
def parse? (s : String) : Option Money :=
  let (whole, after) := Text.splitFirst (· == '.') (cleaned s)
  let fraction := after.getD []
  if 2 < fraction.length || !whole.all Char.isDigit || !fraction.all Char.isDigit
      || (whole.isEmpty && fraction.isEmpty) then none
  else ofCents? (100 * Text.digitsValue whole + fractionCents fraction)

/-! ## Writing -/

/-- A minus sign in front of a negative amount. -/
def sign (m : Money) : List Char := if m.cents < 0 then ['-'] else []

/-- The digits of the whole dollars. -/
def dollarDigits (m : Money) : List Char := Nat.toDigits 10 (m.cents.natAbs / 100)

/-- The two digits of the cents. -/
def centDigits (m : Money) : List Char := Text.paddedNat 2 (m.cents.natAbs % 100)

/-- Commas between groups of three digits, counted from the right. -/
def grouped : List Char → List Char
  | [] => []
  | [c] => [c]
  | c :: rest =>
      if rest.length % 3 == 0 then c :: ',' :: grouped rest else c :: grouped rest

/-- An amount as a plain number of dollars. -/
def text (m : Money) : String :=
  String.ofList (m.sign ++ m.dollarDigits ++ '.' :: m.centDigits)

/-- An amount with a dollar sign and commas. -/
def currency (m : Money) : String :=
  String.ofList (m.sign ++ '$' :: grouped m.dollarDigits ++ '.' :: m.centDigits)

end EstateFiling.Money
