import EstateFiling.Estate.Applicant
import EstateFiling.Estate.Asset
import EstateFiling.Estate.Deceased
import EstateFiling.Estate.Delivery
import EstateFiling.Estate.Family
import EstateFiling.Estate.Grant
import EstateFiling.Estate.Will

/-!
# The estate

`EstateModel` is everything the documents are written from.  A will counts only
under a grant that rests on one: `EstateModel.willExists`.
-/

namespace EstateFiling

/-! ## Filing -/

/-- How the application is filed. -/
structure Filing where
  /-- The registry. -/
  registry : String := ""
  /-- The date of the submission. -/
  submissionDate : Option Date := none
  /-- The number of certified copies asked for. -/
  certifiedCopies : UInt32 := 0
  /-- The address for service, where it is not the first applicant's. -/
  addressForService : Option Address := none
  /-- The e-mail address for service. -/
  serviceEmail : String := ""
  /-- The telephone number for service. -/
  servicePhone : String := ""
  /-- Whether the applicants swear one affidavit together. -/
  jointAffidavit : Bool := false
  /-- Whether a supplemental affidavit is filed. -/
  supplementalAffidavit : Bool := false
  /-- Whether the certificate of a wills search is at hand. -/
  willsSearchCertificate : Bool := false
  /-- Whether the affidavit of assets is submitted with the application. -/
  assetsAffidavitSubmitted : Bool := false
  /-- Whether the court waived delivery. -/
  deliveryWaived : Bool := false
deriving DecidableEq, Inhabited

namespace Filing

/-- The filing as data. -/
def toJson (f : Filing) : Json :=
  .object [("registry", .string f.registry),
    ("submission_date", .optional Date.toJson f.submissionDate),
    ("certified_copies", .nat f.certifiedCopies.toNat),
    ("address_for_service", .optional Address.toJson f.addressForService),
    ("service_email", .string f.serviceEmail), ("service_phone", .string f.servicePhone),
    ("joint_affidavit", .bool f.jointAffidavit),
    ("supplemental_affidavit", .bool f.supplementalAffidavit),
    ("wills_search_certificate", .bool f.willsSearchCertificate),
    ("assets_affidavit_submitted", .bool f.assetsAffidavitSubmitted),
    ("delivery_waived", .bool f.deliveryWaived)]

/-- Decodes a filing. -/
def decode : Json.Decoder Filing := Json.decodeRecord {}
  [.string "registry" (fun r x => { r with registry := x }),
    .optional "submission_date" Date.decode (fun r x => { r with submissionDate := x }),
    .withDefault "certified_copies" Json.decodeUInt32 (fun r x => { r with certifiedCopies := x }),
    .optional "address_for_service" Address.decode (fun r x => { r with addressForService := x }),
    .string "service_email" (fun r x => { r with serviceEmail := x }),
    .string "service_phone" (fun r x => { r with servicePhone := x }),
    .bool "joint_affidavit" (fun r x => { r with jointAffidavit := x }),
    .bool "supplemental_affidavit" (fun r x => { r with supplementalAffidavit := x }),
    .bool "wills_search_certificate" (fun r x => { r with willsSearchCertificate := x }),
    .bool "assets_affidavit_submitted" (fun r x => { r with assetsAffidavitSubmitted := x }),
    .bool "delivery_waived" (fun r x => { r with deliveryWaived := x })]

end Filing

/-! ## Creditors -/

/-- A creditor of the deceased. -/
structure Creditor where
  /-- The name. -/
  name : String := ""
  /-- The amount owed, if it is known. -/
  amount : Option Money := none
deriving DecidableEq, Inhabited

namespace Creditor

/-- A creditor as data. -/
def toJson (c : Creditor) : Json :=
  .object [("name", .string c.name), ("amount", .optional Money.toJson c.amount)]

/-- Decodes a creditor. -/
def decode : Json.Decoder Creditor := Json.decodeRecord {}
  [.string "name" (fun r x => { r with name := x }),
    .optional "amount" Money.decode (fun r x => { r with amount := x })]

end Creditor

/-! ## The whole estate -/

/-- An estate and the application for a grant. -/
structure EstateModel where
  /-- The deceased. -/
  deceased : Deceased := {}
  /-- The grant applied for. -/
  grantType : GrantType := .probate
  /-- The will. -/
  will : Option Will := none
  /-- The applicants. -/
  applicants : List Applicant := []
  /-- The executors who do not apply. -/
  otherExecutors : List OtherExecutor := []
  /-- The family and the beneficiaries. -/
  family : Family := {}
  /-- The assets. -/
  assets : AssetSchedule := {}
  /-- The deliveries of the notice. -/
  deliveries : List Delivery := []
  /-- How the application is filed. -/
  filing : Filing := {}
  /-- The people cited to take up or refuse the grant. -/
  citors : List String := []
  /-- The creditors. -/
  creditors : List Creditor := []
  /-- The grant made elsewhere. -/
  foreignGrant : Option ForeignGrant := none
deriving DecidableEq, Inhabited

namespace EstateModel

/-- Whether there is at most one applicant. -/
def isSoleApplicant (m : EstateModel) : Bool := m.applicants.length ≤ 1

/-- The names of the applicants that have one. -/
def applicantNames (m : EstateModel) : List String :=
  (m.applicants.map Applicant.displayName).filter (fun name => !name.isEmpty)

/-- The will, if the grant rests on one and there is one. -/
def existingWill? (m : EstateModel) : Option Will :=
  if m.grantType.impliesWill then m.will.filter Will.present else none

/-- Whether the grant rests on a will and there is one. -/
def willExists (m : EstateModel) : Bool := m.existingWill?.isSome

/-- Whether an executor renounced. -/
def hasRenunciations (m : EstateModel) : Bool :=
  m.otherExecutors.any (fun e => e.disposition = .renounced)

/-- The deliveries by a method. -/
def deliveriesBy (m : EstateModel) (method : DeliveryMethod) : List Delivery :=
  m.deliveries.filter (fun d => d.method = method)

/-- An estate as data. -/
def toJson (m : EstateModel) : Json :=
  .object [("deceased", m.deceased.toJson), ("grant_type", m.grantType.toJson),
    ("will", .optional Will.toJson m.will),
    ("applicants", .array (m.applicants.map Applicant.toJson)),
    ("other_executors", .array (m.otherExecutors.map OtherExecutor.toJson)),
    ("family", m.family.toJson), ("assets", m.assets.toJson),
    ("deliveries", .array (m.deliveries.map Delivery.toJson)), ("filing", m.filing.toJson),
    ("citors", .strings m.citors), ("creditors", .array (m.creditors.map Creditor.toJson)),
    ("foreign_grant", .optional ForeignGrant.toJson m.foreignGrant)]

/-- Decodes an estate. -/
def decode : Json.Decoder EstateModel := Json.decodeRecord {}
  [.withDefault "deceased" Deceased.decode (fun r x => { r with deceased := x }),
    .withDefault "grant_type" GrantType.decode (fun r x => { r with grantType := x }),
    .optional "will" Will.decode (fun r x => { r with will := x }),
    .list "applicants" Applicant.decode (fun r x => { r with applicants := x }),
    .list "other_executors" OtherExecutor.decode (fun r x => { r with otherExecutors := x }),
    .withDefault "family" Family.decode (fun r x => { r with family := x }),
    .withDefault "assets" AssetSchedule.decode (fun r x => { r with assets := x }),
    .list "deliveries" Delivery.decode (fun r x => { r with deliveries := x }),
    .withDefault "filing" Filing.decode (fun r x => { r with filing := x }),
    .strings "citors" (fun r x => { r with citors := x }),
    .list "creditors" Creditor.decode (fun r x => { r with creditors := x }),
    .optional "foreign_grant" ForeignGrant.decode (fun r x => { r with foreignGrant := x })]

end EstateModel

end EstateFiling
