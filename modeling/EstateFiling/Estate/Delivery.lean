import EstateFiling.Json.Scalars

/-!
# Deliveries

How and when the notice of the application was delivered to the people entitled
to it.
-/

namespace EstateFiling

/-- How a notice is delivered. -/
inductive DeliveryMethod where
  /-- By ordinary mail. -/
  | postal
  /-- By hand. -/
  | personal
  /-- By e-mail or the like. -/
  | electronic
deriving DecidableEq, Repr, Inhabited

namespace DeliveryMethod

/-- Every method, in the order of the printed form. -/
def all : List DeliveryMethod := [.postal, .personal, .electronic]

/-- The name of a method. -/
def name : DeliveryMethod → String
  | .postal => "postal"
  | .personal => "personal"
  | .electronic => "electronic"

/-- Reads a method as records spell it. -/
def parse? (raw : String) : Option DeliveryMethod :=
  match Text.lower (Text.trim raw) with
  | "postal" | "mail" | "ordinary_mail" | "registered_mail" => some .postal
  | "personal" | "in_person" | "hand" => some .personal
  | "electronic" | "email" | "e-mail" => some .electronic
  | _ => none

/-- A method as data. -/
def toJson (m : DeliveryMethod) : Json := .string m.name

/-- Decodes a method. -/
def decode : Json.Decoder DeliveryMethod := Json.decodeEnum all name

end DeliveryMethod

/-- The person a notice was received for, and the recipient's capacity. -/
structure DeliveryCapacity where
  /-- The person. -/
  person : String := ""
  /-- The capacity. -/
  capacity : String := ""
deriving DecidableEq, Repr, Inhabited

namespace DeliveryCapacity

/-- A capacity as data. -/
def toJson (c : DeliveryCapacity) : Json :=
  .object [("person", .string c.person), ("capacity", .string c.capacity)]

/-- Decodes a capacity. -/
def decode : Json.Decoder DeliveryCapacity := Json.decodeRecord {}
  [.string "person" (fun r x => { r with person := x }),
    .string "capacity" (fun r x => { r with capacity := x })]

end DeliveryCapacity

/-- The delivery of a notice. -/
structure Delivery where
  /-- Who received the notice. -/
  recipient : String
  /-- How it was delivered. -/
  method : DeliveryMethod
  /-- When it was delivered. -/
  deliveredOn : Option Date := none
  /-- The person it was received for. -/
  onBehalfOf : Option DeliveryCapacity := none
  /-- Whether the recipient acknowledged receipt. -/
  acknowledged : Bool := false
deriving DecidableEq, Inhabited

namespace Delivery

/-- A delivery as data. -/
def toJson (d : Delivery) : Json :=
  .object [("recipient", .string d.recipient), ("method", d.method.toJson),
    ("delivered_on", .optional Date.toJson d.deliveredOn),
    ("on_behalf_of", .optional DeliveryCapacity.toJson d.onBehalfOf),
    ("acknowledged", .bool d.acknowledged)]

/-- Decodes a delivery. -/
def decode : Json.Decoder Delivery := Json.decodeRecord default
  [.required "recipient" Json.decodeString (fun r x => { r with recipient := x }),
    .required "method" DeliveryMethod.decode (fun r x => { r with method := x }),
    .optional "delivered_on" Date.decode (fun r x => { r with deliveredOn := x }),
    .optional "on_behalf_of" DeliveryCapacity.decode (fun r x => { r with onBehalfOf := x }),
    .bool "acknowledged" (fun r x => { r with acknowledged := x })]

end Delivery

end EstateFiling
