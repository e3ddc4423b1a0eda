import EstateFiling.Json.Decoding

/-!
# Family and beneficiaries

The people who take under the will or without one: the spouse, the children, the
other beneficiaries, and the intestate successors.
-/

namespace EstateFiling

/-- What is known of the spouse. -/
inductive SpouseStatus where
  /-- The spouse survives. -/
  | surviving
  /-- The spouse died first. -/
  | deceased
  /-- There never was a spouse. -/
  | neverMarried
  /-- Not stated. -/
  | unspecified
deriving DecidableEq, Repr, Inhabited

namespace SpouseStatus

/-- Every status. -/
def all : List SpouseStatus := [.surviving, .deceased, .neverMarried, .unspecified]

/-- The name of a status. -/
def name : SpouseStatus → String
  | .surviving => "surviving"
  | .deceased => "deceased"
  | .neverMarried => "never_married"
  | .unspecified => "unspecified"

/-- A status as data. -/
def toJson (s : SpouseStatus) : Json := .string s.name

/-- Decodes a status. -/
def decode : Json.Decoder SpouseStatus := Json.decodeEnum all name

end SpouseStatus

/-- The spouse. -/
structure Spouse where
  /-- What is known of the spouse. -/
  status : SpouseStatus := .unspecified
  /-- The name. -/
  name : String := ""
deriving DecidableEq, Repr, Inhabited

namespace Spouse

/-- A spouse as data. -/
def toJson (s : Spouse) : Json :=
  .object [("status", s.status.toJson), ("name", .string s.name)]

/-- Decodes a spouse. -/
def decode : Json.Decoder Spouse := Json.decodeRecord {}
  [.withDefault "status" SpouseStatus.decode (fun r x => { r with status := x }),
    .string "name" (fun r x => { r with name := x })]

end Spouse

/-- A child or another beneficiary. -/
structure FamilyMember where
  /-- The name. -/
  name : String := ""
  /-- Whether the person survives the deceased. -/
  surviving : Bool := false
deriving DecidableEq, Repr, Inhabited

namespace FamilyMember

/-- A family member as data. -/
def toJson (m : FamilyMember) : Json :=
  .object [("name", .string m.name), ("surviving", .bool m.surviving)]

/-- Decodes a family member. -/
def decode : Json.Decoder FamilyMember := Json.decodeRecord {}
  [.string "name" (fun r x => { r with name := x }),
    .bool "surviving" (fun r x => { r with surviving := x })]

end FamilyMember

/-- A person who takes when there is no will. -/
structure IntestateSuccessor where
  /-- The name. -/
  name : String := ""
  /-- The relationship to the deceased. -/
  relationship : String := ""
deriving DecidableEq, Repr, Inhabited

namespace IntestateSuccessor

/-- A successor as data. -/
def toJson (s : IntestateSuccessor) : Json :=
  .object [("name", .string s.name), ("relationship", .string s.relationship)]

/-- Decodes a successor. -/
def decode : Json.Decoder IntestateSuccessor := Json.decodeRecord {}
  [.string "name" (fun r x => { r with name := x }),
    .string "relationship" (fun r x => { r with relationship := x })]

end IntestateSuccessor

/-- The family and the beneficiaries. -/
structure Family where
  /-- The spouse. -/
  spouse : Spouse := {}
  /-- The children. -/
  children : List FamilyMember := []
  /-- The beneficiaries who are neither spouse nor child. -/
  otherBeneficiaries : List FamilyMember := []
  /-- The intestate successors. -/
  intestateSuccessors : List IntestateSuccessor := []
deriving DecidableEq, Repr, Inhabited

namespace Family

/-- A family as data. -/
def toJson (f : Family) : Json :=
  .object [("spouse", f.spouse.toJson), ("children", .array (f.children.map FamilyMember.toJson)),
    ("other_beneficiaries", .array (f.otherBeneficiaries.map FamilyMember.toJson)),
    ("intestate_successors", .array (f.intestateSuccessors.map IntestateSuccessor.toJson))]

/-- Decodes a family. -/
def decode : Json.Decoder Family := Json.decodeRecord {}
  [.withDefault "spouse" Spouse.decode (fun r x => { r with spouse := x }),
    .list "children" FamilyMember.decode (fun r x => { r with children := x }),
    .list "other_beneficiaries" FamilyMember.decode
      (fun r x => { r with otherBeneficiaries := x }),
    .list "intestate_successors" IntestateSuccessor.decode
      (fun r x => { r with intestateSuccessors := x })]

end Family

end EstateFiling
