import EstateFiling.Estate.Person
import EstateFiling.Json.Scalars

/-!
# The deceased

Whose estate it is: the name and other names, when and where the person died and
lived, and the facts about citizenship of the Nisga'a or of a treaty first
nation that the forms ask for.
-/

namespace EstateFiling

/-- Citizenship of the Nisga'a and membership of a treaty first nation. -/
structure IndigenousStatus where
  /-- Whether the deceased was a Nisga'a citizen. -/
  nisgaaCitizen : Bool := false
  /-- Whether the deceased was a member of a treaty first nation. -/
  treatyFirstNationMember : Bool := false
  /-- The treaty first nation. -/
  treatyFirstNation : String := ""
deriving DecidableEq, Repr, Inhabited

namespace IndigenousStatus

/-- The status as data. -/
def toJson (s : IndigenousStatus) : Json :=
  .object [("nisgaa_citizen", .bool s.nisgaaCitizen),
    ("treaty_first_nation_member", .bool s.treatyFirstNationMember),
    ("treaty_first_nation", .string s.treatyFirstNation)]

/-- Decodes the status. -/
def decode : Json.Decoder IndigenousStatus := Json.decodeRecord {}
  [.bool "nisgaa_citizen" (fun r x => { r with nisgaaCitizen := x }),
    .bool "treaty_first_nation_member" (fun r x => { r with treatyFirstNationMember := x }),
    .string "treaty_first_nation" (fun r x => { r with treatyFirstNation := x })]

end IndigenousStatus

/-- The person whose estate it is. -/
structure Deceased where
  /-- The name. -/
  name : PersonName := {}
  /-- Other names the person used. -/
  aliases : List String := []
  /-- The date of death. -/
  dateOfDeath : Option Date := none
  /-- The place of death. -/
  placeOfDeath : String := ""
  /-- The last address. -/
  lastAddress : Address := {}
  /-- Whether the person was domiciled in the province. -/
  domiciledInJurisdiction : Bool := false
  /-- Citizenship and treaty membership. -/
  indigenous : IndigenousStatus := {}
deriving DecidableEq, Inhabited

namespace Deceased

/-- The deceased as data. -/
def toJson (d : Deceased) : Json :=
  .object [("name", d.name.toJson), ("aliases", .strings d.aliases),
    ("date_of_death", .optional Date.toJson d.dateOfDeath),
    ("place_of_death", .string d.placeOfDeath), ("last_address", d.lastAddress.toJson),
    ("domiciled_in_jurisdiction", .bool d.domiciledInJurisdiction),
    ("indigenous", d.indigenous.toJson)]

/-- Decodes the deceased. -/
def decode : Json.Decoder Deceased := Json.decodeRecord {}
  [.withDefault "name" PersonName.decode (fun r x => { r with name := x }),
    .strings "aliases" (fun r x => { r with aliases := x }),
    .optional "date_of_death" Date.decode (fun r x => { r with dateOfDeath := x }),
    .string "place_of_death" (fun r x => { r with placeOfDeath := x }),
    .withDefault "last_address" Address.decode (fun r x => { r with lastAddress := x }),
    .bool "domiciled_in_jurisdiction" (fun r x => { r with domiciledInJurisdiction := x }),
    .withDefault "indigenous" IndigenousStatus.decode (fun r x => { r with indigenous := x })]

end Deceased

end EstateFiling
