import EstateFiling.Case.Field
import EstateFiling.Case.Record
import EstateFiling.Estate.Applicant
import EstateFiling.Estate.Family

/-!
# People of a case

The applicants, the other executors and the family, from the records.  An
executor whose status says so does not apply; all others do.  A beneficiary is
placed by the type of the record; of several spouses the first counts.  Without a
spouse, the interview may say that the deceased never married.
-/

namespace EstateFiling

/-! ## Names and addresses -/

/-- The address of a record; the lines of the street are joined. -/
def AddressRecord.address (r : AddressRecord) : Address :=
  { poBox := Field.text r.poBox
    street := Text.join ", " ([r.line1, r.line2].filterMap Field.text?)
    city := Field.text r.city
    region := Field.text r.region
    country := Field.text r.country
    postalCode := Field.text r.postalCode }

/-- The name of a record: its parts if any is given, and the full name taken
apart otherwise. -/
def PersonName.ofFields (first middle last fullName : Option String) : PersonName :=
  let parts : PersonName := ⟨Field.text first, Field.text middle, Field.text last⟩
  if parts.isEmpty then PersonName.ofFullName (Field.text fullName) else parts

/-! ## Executors -/

namespace ExecutorRecord

/-- The reason why an executor does not apply, if there is one. -/
def disposition? (r : ExecutorRecord) : Option Disposition :=
  match Text.lower (Field.text r.status) with
  | "renounced" | "renouncing" => some .renounced
  | "deceased" | "died" | "predeceased" => some .deceased
  | "reserved" | "power_reserved" | "power reserved" => some .powerReserved
  | _ => none

/-- The applicant of a record. -/
def applicant (r : ExecutorRecord) : Applicant :=
  { name := PersonName.ofFields r.firstName r.middleName r.lastName r.fullName
    organizationName := Field.text r.organizationName
    kind := if r.isOrganization.getD false then .organization else .individual
    address := match r.address with
      | some a => a.address
      | none => {}
    email := Field.text r.email
    phone := Field.text r.phone
    namedInWill := r.namedInWill.getD false
    relationship := Relationship.parse (Field.text r.relationship) }

/-- The executor of a record who does not apply. -/
def otherExecutor? (r : ExecutorRecord) : Option OtherExecutor :=
  r.disposition?.map (fun d => ⟨r.applicant.displayName, d⟩)

end ExecutorRecord

/-- The applicants among executors. -/
def applicantsOf (records : List ExecutorRecord) : List Applicant :=
  (records.filter (fun r => r.disposition?.isNone)).map ExecutorRecord.applicant

/-- The executors who do not apply. -/
def otherExecutorsOf (records : List ExecutorRecord) : List OtherExecutor :=
  records.filterMap ExecutorRecord.otherExecutor?

/-! ## Beneficiaries -/

/-- How a beneficiary is placed. -/
inductive BeneficiaryKind where
  /-- The spouse. -/
  | spouse
  /-- A child or stepchild. -/
  | child
  /-- A person who takes when there is no will. -/
  | intestateSuccessor
  /-- Anyone else. -/
  | other
deriving DecidableEq, Repr

namespace BeneficiaryRecord

/-- How the beneficiary of a record is placed. -/
def placement (r : BeneficiaryRecord) : BeneficiaryKind :=
  match Text.replaceChars (fun c => c == ' ' || c == '-') '_'
      (Text.lower (Field.text r.kind)) with
  | "spouse" => .spouse
  | "child" | "stepchild" | "step_child" => .child
  | "intestate_successor" | "successor" => .intestateSuccessor
  | _ => .other

/-- Whether a beneficiary survives: unless the status says otherwise. -/
def isSurviving (r : BeneficiaryRecord) : Bool :=
  match Text.lower (Field.text r.status) with
  | "deceased" | "predeceased" | "died" => false
  | _ => true

/-- The family member of a record. -/
def familyMember (r : BeneficiaryRecord) : FamilyMember := ⟨Field.text r.fullName, r.isSurviving⟩

/-- The successor of a record. -/
def successor (r : BeneficiaryRecord) : IntestateSuccessor :=
  ⟨Field.text r.fullName, Field.text r.relationship⟩

/-- The spouse of a record. -/
def spouse (r : BeneficiaryRecord) : Spouse :=
  ⟨if r.isSurviving then .surviving else .deceased, Field.text r.fullName⟩

end BeneficiaryRecord

/-- Whether an interview says that the deceased never married. -/
def saysNeverMarried (payload : Option Json) : Bool :=
  match (payload.bind (Json.get? "marital_status")).bind Json.string? with
  | some status => Text.equalsIgnoringCase (Text.trim status) "never_married"
  | none => false

/-- The family of a case. -/
def Family.ofRecords (records : List BeneficiaryRecord) (payload : Option Json) : Family :=
  let placed (kind : BeneficiaryKind) := records.filter (fun r => r.placement = kind)
  { spouse := match placed .spouse with
      | r :: _ => r.spouse
      | [] => ⟨if saysNeverMarried payload then .neverMarried else .unspecified, ""⟩
    children := (placed .child).map BeneficiaryRecord.familyMember
    otherBeneficiaries := (placed .other).map BeneficiaryRecord.familyMember
    intestateSuccessors := (placed .intestateSuccessor).map BeneficiaryRecord.successor }

end EstateFiling
