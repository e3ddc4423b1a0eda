import EstateFiling.Estate.Person
import EstateFiling.Json.Scalars

/-!
# Grants

The authority that is asked of the court.  A grant rests on a will or not, and is
ancillary when it completes a grant made elsewhere, which `ForeignGrant`
describes.
-/

namespace EstateFiling

/-- A grant the court may make. -/
inductive GrantType where
  /-- Probate. -/
  | probate
  /-- Administration with a will annexed. -/
  | administrationWithWill
  /-- Administration without a will annexed. -/
  | administrationWithoutWill
  /-- Ancillary probate. -/
  | ancillaryProbate
  /-- Ancillary administration with a will annexed. -/
  | ancillaryAdministrationWithWill
  /-- Ancillary administration without a will annexed. -/
  | ancillaryAdministrationWithoutWill
deriving DecidableEq, Repr, Inhabited

namespace GrantType

/-- Every grant, in the usual order. -/
def all : List GrantType :=
  [.probate, .administrationWithWill, .administrationWithoutWill, .ancillaryProbate,
    .ancillaryAdministrationWithWill, .ancillaryAdministrationWithoutWill]

/-- The identifier of a grant. -/
def id : GrantType → String
  | .probate => "probate"
  | .administrationWithWill => "administration_with_will"
  | .administrationWithoutWill => "administration_without_will"
  | .ancillaryProbate => "ancillary_probate"
  | .ancillaryAdministrationWithWill => "ancillary_administration_with_will"
  | .ancillaryAdministrationWithoutWill => "ancillary_administration_without_will"

/-- The name of a grant in a sentence. -/
def label : GrantType → String
  | .probate => "grant of probate"
  | .administrationWithWill => "grant of administration with will annexed"
  | .administrationWithoutWill => "grant of administration without will annexed"
  | .ancillaryProbate => "ancillary grant of probate"
  | .ancillaryAdministrationWithWill => "ancillary grant of administration with will annexed"
  | .ancillaryAdministrationWithoutWill =>
      "ancillary grant of administration without will annexed"

/-- Whether a grant rests on a will. -/
def impliesWill : GrantType → Bool
  | .administrationWithoutWill | .ancillaryAdministrationWithoutWill => false
  | _ => true

/-- Whether a grant completes one made elsewhere. -/
def isAncillary : GrantType → Bool
  | .ancillaryProbate | .ancillaryAdministrationWithWill
  | .ancillaryAdministrationWithoutWill => true
  | _ => false

/-- Reads the identifier of a grant as records spell it: trimmed, in any case,
with blanks or hyphens for underscores, and with some longer and shorter names. -/
def parse? (raw : String) : Option GrantType :=
  match Text.replaceChars (fun c => c == '-' || c == ' ') '_' (Text.lower (Text.trim raw)) with
  | "probate" => some .probate
  | "administration_with_will" | "administration_with_will_annexed" =>
      some .administrationWithWill
  | "administration_without_will" | "administration_without_will_annexed"
  | "administration" => some .administrationWithoutWill
  | "ancillary_probate" => some .ancillaryProbate
  | "ancillary_administration_with_will" => some .ancillaryAdministrationWithWill
  | "ancillary_administration_without_will" | "ancillary_administration" =>
      some .ancillaryAdministrationWithoutWill
  | _ => none

/-- A grant as data. -/
def toJson (g : GrantType) : Json := .string g.id

/-- Decodes a grant. -/
def decode : Json.Decoder GrantType := Json.decodeEnum all id

end GrantType

/-- A grant made by a court elsewhere. -/
structure ForeignGrant where
  /-- The court. -/
  court : String := ""
  /-- The place where the court sits. -/
  jurisdiction : String := ""
  /-- The date of the grant. -/
  issuedOn : Option Date := none
deriving DecidableEq, Inhabited

namespace ForeignGrant

/-- A foreign grant as data. -/
def toJson (g : ForeignGrant) : Json :=
  .object [("court", .string g.court), ("jurisdiction", .string g.jurisdiction),
    ("issued_on", .optional Date.toJson g.issuedOn)]

/-- Decodes a foreign grant. -/
def decode : Json.Decoder ForeignGrant := Json.decodeRecord {}
  [.string "court" (fun r x => { r with court := x }),
    .string "jurisdiction" (fun r x => { r with jurisdiction := x }),
    .optional "issued_on" Date.decode (fun r x => { r with issuedOn := x })]

end ForeignGrant

end EstateFiling
