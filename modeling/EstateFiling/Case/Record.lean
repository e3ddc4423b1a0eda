import EstateFiling.Json.Decoding

/-!
# Case records

The records of a case as they are kept by the people who handle it.  Every field
may be missing; amounts are kept as they were written, since they may be numbers
or texts.  Nothing here is trimmed or checked: the estate is built from records
by the modules that come after.
-/

namespace EstateFiling

/-! ## Parts of a case -/

/-- An address. -/
structure AddressRecord where
  /-- The post office box. -/
  poBox : Option String := none
  /-- The first line of the street. -/
  line1 : Option String := none
  /-- The second line of the street. -/
  line2 : Option String := none
  /-- The city. -/
  city : Option String := none
  /-- The province or region. -/
  region : Option String := none
  /-- The country. -/
  country : Option String := none
  /-- The postal code. -/
  postalCode : Option String := none
deriving Inhabited

namespace AddressRecord

/-- An address as data. -/
def toJson (r : AddressRecord) : Json :=
  .object [("po_box", .optional .string r.poBox), ("line1", .optional .string r.line1),
    ("line2", .optional .string r.line2), ("city", .optional .string r.city),
    ("region", .optional .string r.region), ("country", .optional .string r.country),
    ("postal_code", .optional .string r.postalCode)]

/-- Decodes an address. -/
def decode : Json.Decoder AddressRecord := Json.decodeRecord {}
  [.optionalString "po_box" (fun r x => { r with poBox := x }),
    .optionalString "line1" (fun r x => { r with line1 := x }),
    .optionalString "line2" (fun r x => { r with line2 := x }),
    .optionalString "city" (fun r x => { r with city := x }),
    .optionalString "region" (fun r x => { r with region := x }),
    .optionalString "country" (fun r x => { r with country := x }),
    .optionalString "postal_code" (fun r x => { r with postalCode := x })]

end AddressRecord

/-- A delivery of the notice. -/
structure DeliveryRecord where
  /-- Who received it. -/
  recipient : Option String := none
  /-- How it was delivered. -/
  method : Option String := none
  /-- When it was delivered. -/
  deliveredOn : Option String := none
  /-- The person it was received for. -/
  onBehalfOf : Option String := none
  /-- The recipient's capacity. -/
  capacity : Option String := none
  /-- Whether receipt was acknowledged. -/
  acknowledged : Option Bool := none
deriving Inhabited

namespace DeliveryRecord

/-- A delivery as data. -/
def toJson (r : DeliveryRecord) : Json :=
  .object [("recipient", .optional .string r.recipient), ("method", .optional .string r.method),
    ("delivered_on", .optional .string r.deliveredOn),
    ("on_behalf_of", .optional .string r.onBehalfOf), ("capacity", .optional .string r.capacity),
    ("acknowledged", .optional .bool r.acknowledged)]

/-- Decodes a delivery. -/
def decode : Json.Decoder DeliveryRecord := Json.decodeRecord {}
  [.optionalString "recipient" (fun r x => { r with recipient := x }),
    .optionalString "method" (fun r x => { r with method := x }),
    .optionalString "delivered_on" (fun r x => { r with deliveredOn := x }),
    .optionalString "on_behalf_of" (fun r x => { r with onBehalfOf := x }),
    .optionalString "capacity" (fun r x => { r with capacity := x }),
    .optionalBool "acknowledged" (fun r x => { r with acknowledged := x })]

end DeliveryRecord

/-- A creditor. -/
structure CreditorRecord where
  /-- The name. -/
  name : Option String := none
  /-- The amount owed. -/
  amount : Option Json := none
deriving Inhabited

namespace CreditorRecord

/-- A creditor as data. -/
def toJson (r : CreditorRecord) : Json :=
  .object [("name", .optional .string r.name), ("amount", .optional id r.amount)]

/-- Decodes a creditor. -/
def decode : Json.Decoder CreditorRecord := Json.decodeRecord {}
  [.optionalString "name" (fun r x => { r with name := x }),
    .optional "amount" Json.decodeAny (fun r x => { r with amount := x })]

end CreditorRecord

/-! ## The case -/

/-- The facts of a case. -/
structure CaseRecord where
  /-- The identifier of the case. -/
  id : Option String := none
  /-- The full name of the deceased. -/
  deceasedFullName : Option String := none
  /-- The first name of the deceased. -/
  deceasedFirstName : Option String := none
  /-- The middle name of the deceased. -/
  deceasedMiddleName : Option String := none
  /-- The last name of the deceased. -/
  deceasedLastName : Option String := none
  /-- Other names of the deceased. -/
  deceasedAliases : List String := []
  /-- The date of death. -/
  dateOfDeath : Option String := none
  /-- The place of death. -/
  placeOfDeath : Option String := none
  /-- The last address of the deceased. -/
  lastAddress : Option AddressRecord := none
  /-- Whether the deceased was domiciled in the province. -/
  domiciledInProvince : Option Bool := none
  /-- Whether the deceased was a Nisga'a citizen. -/
  nisgaaCitizen : Option Bool := none
  /-- The treaty first nation of the deceased. -/
  treatyFirstNation : Option String := none
  /-- The grant applied for. -/
  grantType : Option String := none
  /-- Whether there is a will. -/
  hasWill : Option Bool := none
  /-- The registry. -/
  registry : Option String := none
  /-- The date of the submission. -/
  submissionDate : Option String := none
  /-- The number of certified copies asked for. -/
  certifiedCopies : Option UInt32 := none
  /-- The address for service. -/
  serviceAddress : Option AddressRecord := none
  /-- The e-mail address for service. -/
  serviceEmail : Option String := none
  /-- The telephone number for service. -/
  servicePhone : Option String := none
  /-- Whether the applicants swear together. -/
  jointAffidavit : Option Bool := none
  /-- Whether a supplemental affidavit is filed. -/
  supplementalAffidavit : Option Bool := none
  /-- Whether the wills search certificate is at hand. -/
  willsSearchCertificate : Option Bool := none
  /-- Whether the affidavit of assets is submitted. -/
  assetsAffidavitSubmitted : Option Bool := none
  /-- Whether the court waived delivery. -/
  deliveryWaived : Option Bool := none
  /-- The deliveries of the notice. -/
  deliveries : List DeliveryRecord := []
  /-- The people cited. -/
  citors : List String := []
  /-- The creditors. -/
  creditors : List CreditorRecord := []
  /-- The court of a foreign grant. -/
  foreignGrantCourt : Option String := none
  /-- The place of that court. -/
  foreignGrantJurisdiction : Option String := none
  /-- The date of a foreign grant. -/
  foreignGrantDate : Option String := none
deriving Inhabited

namespace CaseRecord

/-- A case as data. -/
def toJson (r : CaseRecord) : Json :=
  .object [("id", .optional .string r.id),
    ("deceased_full_name", .optional .string r.deceasedFullName),
    ("deceased_first_name", .optional .string r.deceasedFirstName),
    ("deceased_middle_name", .optional .string r.deceasedMiddleName),
    ("deceased_last_name", .optional .string r.deceasedLastName),
    ("deceased_aliases", .strings r.deceasedAliases),
    ("date_of_death", .optional .string r.dateOfDeath),
    ("place_of_death", .optional .string r.placeOfDeath),
    ("last_address", .optional AddressRecord.toJson r.lastAddress),
    ("domiciled_in_bc", .optional .bool r.domiciledInProvince),
    ("nisgaa_citizen", .optional .bool r.nisgaaCitizen),
    ("treaty_first_nation", .optional .string r.treatyFirstNation),
    ("grant_type", .optional .string r.grantType), ("has_will", .optional .bool r.hasWill),
    ("registry", .optional .string r.registry),
    ("submission_date", .optional .string r.submissionDate),
    ("certified_copies", .optional (fun n => .nat n.toNat) r.certifiedCopies),
    ("service_address", .optional AddressRecord.toJson r.serviceAddress),
    ("service_email", .optional .string r.serviceEmail),
    ("service_phone", .optional .string r.servicePhone),
    ("joint_affidavit", .optional .bool r.jointAffidavit),
    ("supplemental_affidavit", .optional .bool r.supplementalAffidavit),
    ("wills_search_certificate", .optional .bool r.willsSearchCertificate),
    ("assets_affidavit_submitted", .optional .bool r.assetsAffidavitSubmitted),
    ("delivery_waived", .optional .bool r.deliveryWaived),
    ("deliveries", .array (r.deliveries.map DeliveryRecord.toJson)),
    ("citors", .strings r.citors), ("creditors", .array (r.creditors.map CreditorRecord.toJson)),
    ("foreign_grant_court", .optional .string r.foreignGrantCourt),
    ("foreign_grant_jurisdiction", .optional .string r.foreignGrantJurisdiction),
    ("foreign_grant_date", .optional .string r.foreignGrantDate)]

/-- Decodes a case. -/
def decode : Json.Decoder CaseRecord := Json.decodeRecord {}
  [.optionalString "id" (fun r x => { r with id := x }),
    .optionalString "deceased_full_name" (fun r x => { r with deceasedFullName := x }),
    .optionalString "deceased_first_name" (fun r x => { r with deceasedFirstName := x }),
    .optionalString "deceased_middle_name" (fun r x => { r with deceasedMiddleName := x }),
    .optionalString "deceased_last_name" (fun r x => { r with deceasedLastName := x }),
    .strings "deceased_aliases" (fun r x => { r with deceasedAliases := x }),
    .optionalString "date_of_death" (fun r x => { r with dateOfDeath := x }),
    .optionalString "place_of_death" (fun r x => { r with placeOfDeath := x }),
    .optional "last_address" AddressRecord.decode (fun r x => { r with lastAddress := x }),
    .optionalBool "domiciled_in_bc" (fun r x => { r with domiciledInProvince := x }),
    .optionalBool "nisgaa_citizen" (fun r x => { r with nisgaaCitizen := x }),
    .optionalString "treaty_first_nation" (fun r x => { r with treatyFirstNation := x }),
    .optionalString "grant_type" (fun r x => { r with grantType := x }),
    .optionalBool "has_will" (fun r x => { r with hasWill := x }),
    .optionalString "registry" (fun r x => { r with registry := x }),
    .optionalString "submission_date" (fun r x => { r with submissionDate := x }),
    .optional "certified_copies" Json.decodeUInt32 (fun r x => { r with certifiedCopies := x }),
    .optional "service_address" AddressRecord.decode (fun r x => { r with serviceAddress := x }),
    .optionalString "service_email" (fun r x => { r with serviceEmail := x }),
    .optionalString "service_phone" (fun r x => { r with servicePhone := x }),
    .optionalBool "joint_affidavit" (fun r x => { r with jointAffidavit := x }),
    .optionalBool "supplemental_affidavit" (fun r x => { r with supplementalAffidavit := x }),
    .optionalBool "wills_search_certificate" (fun r x => { r with willsSearchCertificate := x }),
    .optionalBool "assets_affidavit_submitted"
      (fun r x => { r with assetsAffidavitSubmitted := x }),
    .optionalBool "delivery_waived" (fun r x => { r with deliveryWaived := x }),
    .list "deliveries" DeliveryRecord.decode (fun r x => { r with deliveries := x }),
    .strings "citors" (fun r x => { r with citors := x }),
    .list "creditors" CreditorRecord.decode (fun r x => { r with creditors := x }),
    .optionalString "foreign_grant_court" (fun r x => { r with foreignGrantCourt := x }),
    .optionalString "foreign_grant_jurisdiction"
      (fun r x => { r with foreignGrantJurisdiction := x }),
    .optionalString "foreign_grant_date" (fun r x => { r with foreignGrantDate := x })]

end CaseRecord

/-- The answers of an intake interview.  `payload` holds whatever else was answered. -/
structure IntakeDraft where
  /-- Whether there is a will. -/
  hasWill : Option Bool := none
  /-- The date of the will. -/
  willDate : Option String := none
  /-- The place where the will was signed. -/
  willSignedAt : Option String := none
  /-- Whether the will is in electronic form. -/
  willElectronic : Option Bool := none
  /-- Whether the original is at hand. -/
  willOriginalAvailable : Option Bool := none
  /-- The dates of the codicils. -/
  codicilDates : List String := []
  /-- Whether the will was altered. -/
  willHasAlterations : Option Bool := none
  /-- Whether words were made illegible. -/
  willHasObliterations : Option Bool := none
  /-- The documents the will refers to. -/
  willReferencedDocuments : List String := []
  /-- Whether the will has to be translated. -/
  willTranslationRequired : Option Bool := none
  /-- Whether a copy was demanded. -/
  electronicWillDemanded : Option Bool := none
  /-- The people who received a copy. -/
  electronicWillProvidedTo : List String := []
  /-- All other answers. -/
  payload : Json := .null
deriving Inhabited

namespace IntakeDraft

/-- A draft as data. -/
def toJson (r : IntakeDraft) : Json :=
  .object [("has_will", .optional .bool r.hasWill), ("will_date", .optional .string r.willDate),
    ("will_signed_at", .optional .string r.willSignedAt),
    ("will_electronic", .optional .bool r.willElectronic),
    ("will_original_available", .optional .bool r.willOriginalAvailable),
    ("codicil_dates", .strings r.codicilDates),
    ("will_has_alterations", .optional .bool r.willHasAlterations),
    ("will_has_obliterations", .optional .bool r.willHasObliterations),
    ("will_referenced_documents", .strings r.willReferencedDocuments),
    ("will_translation_required", .optional .bool r.willTranslationRequired),
    ("electronic_will_demanded", .optional .bool r.electronicWillDemanded),
    ("electronic_will_provided_to", .strings r.electronicWillProvidedTo), ("payload", r.payload)]

/-- Decodes a draft. -/
def decode : Json.Decoder IntakeDraft := Json.decodeRecord {}
  [.optionalBool "has_will" (fun r x => { r with hasWill := x }),
    .optionalString "will_date" (fun r x => { r with willDate := x }),
    .optionalString "will_signed_at" (fun r x => { r with willSignedAt := x }),
    .optionalBool "will_electronic" (fun r x => { r with willElectronic := x }),
    .optionalBool "will_original_available" (fun r x => { r with willOriginalAvailable := x }),
    .strings "codicil_dates" (fun r x => { r with codicilDates := x }),
    .optionalBool "will_has_alterations" (fun r x => { r with willHasAlterations := x }),
    .optionalBool "will_has_obliterations" (fun r x => { r with willHasObliterations := x }),
    .strings "will_referenced_documents" (fun r x => { r with willReferencedDocuments := x }),
    .optionalBool "will_translation_required" (fun r x => { r with willTranslationRequired := x }),
    .optionalBool "electronic_will_demanded" (fun r x => { r with electronicWillDemanded := x }),
    .strings "electronic_will_provided_to" (fun r x => { r with electronicWillProvidedTo := x }),
    .withDefault "payload" Json.decodeAny (fun r x => { r with payload := x })]

end IntakeDraft

/-! ## People and assets -/

/-- A person or organization named as executor or applying for the grant. -/
structure ExecutorRecord where
  /-- The full name. -/
  fullName : Option String := none
  /-- The first name. -/
  firstName : Option String := none
  /-- The middle name. -/
  middleName : Option String := none
  /-- The last name. -/
  lastName : Option String := none
  /-- The name of an organization. -/
  organizationName : Option String := none
  /-- Whether it is an organization. -/
  isOrganization : Option Bool := none
  /-- Whether the executor acts, renounced, died or may apply later. -/
  status : Option String := none
  /-- Whether the will names the executor. -/
  namedInWill : Option Bool := none
  /-- The relationship to the deceased. -/
  relationship : Option String := none
  /-- The mailing address. -/
  address : Option AddressRecord := none
  /-- The e-mail address. -/
  email : Option String := none
  /-- The telephone number. -/
  phone : Option String := none
deriving Inhabited

namespace ExecutorRecord

/-- An executor as data. -/
def toJson (r : ExecutorRecord) : Json :=
  .object [("full_name", .optional .string r.fullName),
    ("first_name", .optional .string r.firstName),
    ("middle_name", .optional .string r.middleName), ("last_name", .optional .string r.lastName),
    ("organization_name", .optional .string r.organizationName),
    ("is_organization", .optional .bool r.isOrganization), ("status", .optional .string r.status),
    ("named_in_will", .optional .bool r.namedInWill),
    ("relationship", .optional .string r.relationship),
    ("address", .optional AddressRecord.toJson r.address), ("email", .optional .string r.email),
    ("phone", .optional .string r.phone)]

/-- Decodes an executor. -/
def decode : Json.Decoder ExecutorRecord := Json.decodeRecord {}
  [.optionalString "full_name" (fun r x => { r with fullName := x }),
    .optionalString "first_name" (fun r x => { r with firstName := x }),
    .optionalString "middle_name" (fun r x => { r with middleName := x }),
    .optionalString "last_name" (fun r x => { r with lastName := x }),
    .optionalString "organization_name" (fun r x => { r with organizationName := x }),
    .optionalBool "is_organization" (fun r x => { r with isOrganization := x }),
    .optionalString "status" (fun r x => { r with status := x }),
    .optionalBool "named_in_will" (fun r x => { r with namedInWill := x }),
    .optionalString "relationship" (fun r x => { r with relationship := x }),
    .optional "address" AddressRecord.decode (fun r x => { r with address := x }),
    .optionalString "email" (fun r x => { r with email := x }),
    .optionalString "phone" (fun r x => { r with phone := x })]

end ExecutorRecord

/-- A person who benefits. -/
structure BeneficiaryRecord where
  /-- The full name. -/
  fullName : Option String := none
  /-- Spouse, child, successor or other. -/
  kind : Option String := none
  /-- Whether the person survives. -/
  status : Option String := none
  /-- The relationship to the deceased. -/
  relationship : Option String := none
deriving Inhabited

namespace BeneficiaryRecord

/-- A beneficiary as data. -/
def toJson (r : BeneficiaryRecord) : Json :=
  .object [("full_name", .optional .string r.fullName), ("type", .optional .string r.kind),
    ("status", .optional .string r.status), ("relationship", .optional .string r.relationship)]

/-- Decodes a beneficiary. -/
def decode : Json.Decoder BeneficiaryRecord := Json.decodeRecord {}
  [.optionalString "full_name" (fun r x => { r with fullName := x }),
    .optionalString "type" (fun r x => { r with kind := x }),
    .optionalString "status" (fun r x => { r with status := x }),
    .optionalString "relationship" (fun r x => { r with relationship := x })]

end BeneficiaryRecord

/-- A line of a schedule of assets. -/
structure ScheduleRecord where
  /-- The collection it belongs to. -/
  category : String := ""
  /-- What it is. -/
  description : String := ""
  /-- What it is worth. -/
  value : Option Json := none
  /-- The creditor of a secured debt. -/
  securedCreditor : Option String := none
  /-- The amount of a secured debt. -/
  securedAmount : Option Json := none
deriving Inhabited

namespace ScheduleRecord

/-- A schedule line as data. -/
def toJson (r : ScheduleRecord) : Json :=
  .object [("category", .string r.category), ("description", .string r.description),
    ("value", .optional id r.value), ("secured_creditor", .optional .string r.securedCreditor),
    ("secured_amount", .optional id r.securedAmount)]

/-- Decodes a schedule line. -/
def decode : Json.Decoder ScheduleRecord := Json.decodeRecord {}
  [.string "category" (fun r x => { r with category := x }),
    .string "description" (fun r x => { r with description := x }),
    .optional "value" Json.decodeAny (fun r x => { r with value := x }),
    .optionalString "secured_creditor" (fun r x => { r with securedCreditor := x }),
    .optional "secured_amount" Json.decodeAny (fun r x => { r with securedAmount := x })]

end ScheduleRecord

end EstateFiling
