import EstateFiling.Estate.Person

/-!
# Applicants and other executors

Who applies for the grant, and who is named as executor but does not apply, with
the reason.
-/

namespace EstateFiling

/-! ## Relationship to the deceased -/

/-- How an applicant is related to the deceased. -/
inductive Relationship where
  /-- A spouse. -/
  | spouse
  /-- A child. -/
  | child
  /-- A grandchild. -/
  | grandchild
  /-- A parent. -/
  | parent
  /-- A brother or sister. -/
  | sibling
  /-- Some other relationship, as described. -/
  | other (description : String)
  /-- Not stated. -/
  | unspecified
deriving DecidableEq, Repr, Inhabited

namespace Relationship

/-- The relationships that have a fixed name, in their declared order. -/
def named : List Relationship :=
  [.spouse, .child, .grandchild, .parent, .sibling, .unspecified]

/-- Reads a relationship from the words of a record; words that are not known
are kept. -/
def parse (raw : String) : Relationship :=
  match Text.lower (Text.trim raw) with
  | "" => .unspecified
  | "spouse" | "husband" | "wife" | "common-law partner" | "common law partner" => .spouse
  | "child" | "son" | "daughter" => .child
  | "grandchild" | "grandson" | "granddaughter" => .grandchild
  | "parent" | "mother" | "father" => .parent
  | "sibling" | "brother" | "sister" => .sibling
  | _ => .other (Text.trim raw)

/-- The word for a relationship. -/
def label : Relationship → String
  | .spouse => "spouse"
  | .child => "child"
  | .grandchild => "grandchild"
  | .parent => "parent"
  | .sibling => "sibling"
  | .other description => description
  | .unspecified => ""

/-- The name of a relationship as data. -/
def name : Relationship → String
  | .unspecified => "unspecified"
  | .other _ => "other"
  | r => r.label

/-- A relationship as data. -/
def toJson : Relationship → Json
  | .other description => .object [("other", .string description)]
  | r => .string r.name

/-- Decodes a relationship. -/
def decode : Json.Decoder Relationship
  | .object [(some "other", .string description)] true => .ok (.other description)
  | s => Json.decodeEnum named name s

end Relationship

/-! ## Applicants -/

/-- Whether an applicant is a person or an organization. -/
inductive ApplicantKind where
  /-- A person. -/
  | individual
  /-- An organization. -/
  | organization
deriving DecidableEq, Repr, Inhabited

namespace ApplicantKind

/-- The name of a kind. -/
def name : ApplicantKind → String
  | .individual => "individual"
  | .organization => "organization"

/-- A kind as data. -/
def toJson (k : ApplicantKind) : Json := .string k.name

/-- Decodes a kind. -/
def decode : Json.Decoder ApplicantKind := Json.decodeEnum [.individual, .organization] name

end ApplicantKind

/-- Someone who applies for the grant. -/
structure Applicant where
  /-- The name of a person. -/
  name : PersonName := {}
  /-- The name of an organization. -/
  organizationName : String := ""
  /-- Person or organization. -/
  kind : ApplicantKind := .individual
  /-- The mailing address. -/
  address : Address := {}
  /-- The e-mail address. -/
  email : String := ""
  /-- The telephone number. -/
  phone : String := ""
  /-- Whether the will names the applicant as executor. -/
  namedInWill : Bool := false
  /-- The relationship to the deceased. -/
  relationship : Relationship := .unspecified
deriving DecidableEq, Repr, Inhabited

namespace Applicant

/-- The name of the organization if the applicant is one and has a name, and the
name of the person otherwise. -/
def displayName (a : Applicant) : String :=
  if a.kind = .organization && !Text.isBlankText a.organizationName then
    Text.trim a.organizationName
  else a.name.display

/-- An applicant as data. -/
def toJson (a : Applicant) : Json :=
  .object [("name", a.name.toJson), ("organization_name", .string a.organizationName),
    ("kind", a.kind.toJson), ("address", a.address.toJson), ("email", .string a.email),
    ("phone", .string a.phone), ("named_in_will", .bool a.namedInWill),
    ("relationship", a.relationship.toJson)]

/-- Decodes an applicant. -/
def decode : Json.Decoder Applicant := Json.decodeRecord {}
  [.withDefault "name" PersonName.decode (fun r x => { r with name := x }),
    .string "organization_name" (fun r x => { r with organizationName := x }),
    .withDefault "kind" ApplicantKind.decode (fun r x => { r with kind := x }),
    .withDefault "address" Address.decode (fun r x => { r with address := x }),
    .string "email" (fun r x => { r with email := x }),
    .string "phone" (fun r x => { r with phone := x }),
    .bool "named_in_will" (fun r x => { r with namedInWill := x }),
    .withDefault "relationship" Relationship.decode (fun r x => { r with relationship := x })]

end Applicant

/-! ## Executors who do not apply -/

/-- Why an executor does not apply. -/
inductive Disposition where
  /-- The executor renounced. -/
  | renounced
  /-- The executor died. -/
  | deceased
  /-- The executor may apply later. -/
  | powerReserved
deriving DecidableEq, Repr, Inhabited

namespace Disposition

/-- Every disposition. -/
def all : List Disposition := [.renounced, .deceased, .powerReserved]

/-- The name of a disposition. -/
def name : Disposition → String
  | .renounced => "renounced"
  | .deceased => "deceased"
  | .powerReserved => "power_reserved"

/-- The reason in a sentence. -/
def reason : Disposition → String
  | .renounced => "has renounced executorship"
  | .deceased => "has died"
  | .powerReserved => "has had power reserved to apply at a later date"

/-- A disposition as data. -/
def toJson (d : Disposition) : Json := .string d.name

/-- Decodes a disposition. -/
def decode : Json.Decoder Disposition := Json.decodeEnum all name

end Disposition

/-- An executor who does not apply. -/
structure OtherExecutor where
  /-- The name. -/
  name : String
  /-- The reason. -/
  disposition : Disposition
deriving DecidableEq, Repr, Inhabited

namespace OtherExecutor

/-- An executor as data. -/
def toJson (e : OtherExecutor) : Json :=
  .object [("name", .string e.name), ("disposition", e.disposition.toJson)]

/-- Decodes an executor. -/
def decode : Json.Decoder OtherExecutor := Json.decodeRecord default
  [.required "name" Json.decodeString (fun r x => { r with name := x }),
    .required "disposition" Disposition.decode (fun r x => { r with disposition := x })]

end OtherExecutor

end EstateFiling
