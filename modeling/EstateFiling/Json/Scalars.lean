import EstateFiling.Calendar.Reading
import EstateFiling.Json.Decoding
import EstateFiling.Money.Text

/-!
# Amounts and dates as data

An amount of money is written as its number of cents, a date as its text.
`Json.moneyAmount?` is the loose reading of amounts in records: a number of
dollars, or a text as people write amounts.
-/

namespace EstateFiling

namespace Money

/-- An amount as data. -/
def toJson (m : Money) : Json := .int m.cents

/-- Decodes an amount. -/
def decode : Json.Decoder Money := fun s => do Json.found (ofCents? (← Json.decodeInteger s))

end Money

namespace Date

/-- A date as data. -/
def toJson (d : Date) : Json := .string d.text

/-- Decodes a date. -/
def decode : Json.Decoder Date := fun s => do Json.found (parse? (← Json.decodeString s))

end Date

namespace Json

/-- The amount of dollars that a record's value states, if it states one that is
not negative.  Naturals are exact; any other number counts as a double. -/
def moneyAmount? : Json → Option Money
  | .number n =>
      match n.natural? with
      | some dollars => Money.ofDollars? dollars
      | none => Money.ofDouble? n.toDouble
  | .string s => Money.parse? s
  | _ => none

end Json

end EstateFiling
