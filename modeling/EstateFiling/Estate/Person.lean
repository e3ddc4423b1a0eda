import EstateFiling.Json.Decoding
import EstateFiling.Text.Ascii
import EstateFiling.Text.Blank

/-!
# Names and addresses

A name has three parts, any of which may be blank; `PersonName.display` joins
those that are not.  `PersonName.ofFullName` takes a full name apart: one word is
a first name, two are first and last, and of more the ones between are the
middle name.  The display of the result is the full name with single blanks, so
nothing is invented and nothing lost.

An address is printed on one line, a post office box standing in for the street.
-/

namespace EstateFiling

/-! ## Names -/

/-- The name of a person. -/
structure PersonName where
  /-- The first name. -/
  first : String := ""
  /-- The middle names. -/
  middle : String := ""
  /-- The last name. -/
  last : String := ""
deriving DecidableEq, Repr, Inhabited

namespace PersonName

/-- The parts that are not blank, trimmed, with single blanks between them. -/
def display (name : PersonName) : String :=
  Text.join " " (Text.trimmedNonBlank [name.first, name.middle, name.last])

/-- Whether every part is blank. -/
def isEmpty (name : PersonName) : Bool := name.display.isEmpty

/-- The name with the given words. -/
def ofWords : List String → PersonName
  | [] => {}
  | [first] => ⟨first, "", ""⟩
  | [first, last] => ⟨first, "", last⟩
  | first :: rest => ⟨first, Text.join " " rest.dropLast, rest.getLastD ""⟩

/-- Takes a full name apart. -/
def ofFullName (fullName : String) : PersonName := ofWords (Text.words fullName)

/-- A name as data. -/
def toJson (name : PersonName) : Json :=
  .object [("first", .string name.first), ("middle", .string name.middle),
    ("last", .string name.last)]

/-- Decodes a name. -/
def decode : Json.Decoder PersonName := Json.decodeRecord {}
  [.string "first" (fun r x => { r with first := x }),
    .string "middle" (fun r x => { r with middle := x }),
    .string "last" (fun r x => { r with last := x })]

end PersonName

/-! ## Addresses -/

/-- A postal address. -/
structure Address where
  /-- The post office box. -/
  poBox : String := ""
  /-- The street. -/
  street : String := ""
  /-- The city. -/
  city : String := ""
  /-- The province or region. -/
  region : String := ""
  /-- The country. -/
  country : String := ""
  /-- The postal code. -/
  postalCode : String := ""
deriving DecidableEq, Repr, Inhabited

namespace Address

/-- Whether every part is blank. -/
def isEmpty (a : Address) : Bool :=
  [a.poBox, a.street, a.city, a.region, a.country, a.postalCode].all Text.isBlankText

/-- The post office box if there is one, named as such, and the street
otherwise. -/
def firstLine (a : Address) : String :=
  let poBox := Text.trim a.poBox
  if poBox.isEmpty then Text.trim a.street
  else if Text.startsWith (Text.lower poBox) "po box" then poBox
  else "PO Box " ++ poBox

/-- The address on one line; blank parts are left out. -/
def text (a : Address) : String :=
  Text.join ", "
    ((a.firstLine :: [a.city, a.region, a.country, a.postalCode].map Text.trim).filter
      (fun part => !part.isEmpty))

/-- An address as data. -/
def toJson (a : Address) : Json :=
  .object [("po_box", .string a.poBox), ("street", .string a.street), ("city", .string a.city),
    ("region", .string a.region), ("country", .string a.country),
    ("postal_code", .string a.postalCode)]

/-- Decodes an address. -/
def decode : Json.Decoder Address := Json.decodeRecord {}
  [.string "po_box" (fun r x => { r with poBox := x }),
    .string "street" (fun r x => { r with street := x }),
    .string "city" (fun r x => { r with city := x }),
    .string "region" (fun r x => { r with region := x }),
    .string "country" (fun r x => { r with country := x }),
    .string "postal_code" (fun r x => { r with postalCode := x })]

end Address

end EstateFiling
