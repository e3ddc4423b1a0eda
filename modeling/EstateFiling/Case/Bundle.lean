import EstateFiling.Case.Override
import EstateFiling.Case.People
import EstateFiling.Document.Settings
import EstateFiling.Estate.Model

/-!
# Building the estate

A bundle is all that is known of a case: its records and the values entered by
hand.  Every field of the estate is found in the same way: what was entered by
hand if it can be read, otherwise what the records say, otherwise nothing.
Building never fails; what is missing stays blank on the printed form.

`CaseBundle.model` builds the estate from the bundle alone, and
`CaseBundle.build` names the default registry when the estate names none.
-/

namespace EstateFiling

/-- All that is known of a case. -/
structure CaseBundle where
  /-- The facts of the case. -/
  case : CaseRecord := {}
  /-- The answers of the intake interview. -/
  intake : Option IntakeDraft := none
  /-- The executors. -/
  executors : List ExecutorRecord := []
  /-- The beneficiaries. -/
  beneficiaries : List BeneficiaryRecord := []
  /-- The schedule of assets. -/
  schedules : List ScheduleRecord := []
  /-- The values entered by hand. -/
  overrides : ManualOverrides := {}
deriving Inhabited

namespace CaseBundle

/-- A bundle as data. -/
def toJson (b : CaseBundle) : Json :=
  .object [("case", b.case.toJson), ("intake", .optional IntakeDraft.toJson b.intake),
    ("executors", .array (b.executors.map ExecutorRecord.toJson)),
    ("beneficiaries", .array (b.beneficiaries.map BeneficiaryRecord.toJson)),
    ("schedules", .array (b.schedules.map ScheduleRecord.toJson)),
    ("overrides", b.overrides.toJson)]

/-- Decodes a bundle. -/
def decode : Json.Decoder CaseBundle := Json.decodeRecord {}
  [.withDefault "case" CaseRecord.decode (fun r x => { r with case := x }),
    .optional "intake" IntakeDraft.decode (fun r x => { r with intake := x }),
    .list "executors" ExecutorRecord.decode (fun r x => { r with executors := x }),
    .list "beneficiaries" BeneficiaryRecord.decode (fun r x => { r with beneficiaries := x }),
    .list "schedules" ScheduleRecord.decode (fun r x => { r with schedules := x }),
    .withDefault "overrides" ManualOverrides.decode (fun r x => { r with overrides := x })]

/-! ## The grant and the will -/

/-- Whether there is a will, if anything says so. -/
def hasWill? (b : CaseBundle) : Option Bool :=
  (b.overrides.flag? "will.exists").or
    ((b.intake.bind IntakeDraft.hasWill).or b.case.hasWill)

/-- The grant that the overrides or the case name. -/
def namedGrant? (b : CaseBundle) : Option GrantType :=
  ((b.overrides.text? "grant_type").bind GrantType.parse?).or
    (b.case.grantType.bind GrantType.parse?)

/-- The grant: the one named, or probate with a will and administration
without. -/
def grantType (b : CaseBundle) : GrantType :=
  b.namedGrant?.getD
    (if b.hasWill?.getD false then .probate else .administrationWithoutWill)

/-- The texts of a list that are not blank, trimmed. -/
def trimmedList (items : List String) : List String := Text.trimmedNonBlank items

/-- The will that the interview describes. -/
def will (b : CaseBundle) : Will :=
  let o := b.overrides
  let draft := b.intake.getD {}
  let flag (key : String) (derived : Option Bool) := ((o.flag? key).or derived).getD false
  { present := b.hasWill?.getD true
    signedOn := (o.date? "will.signed_on").or (Field.date? draft.willDate)
    signedAt := (o.text? "will.signed_at").getD (Field.text draft.willSignedAt)
    electronic := flag "will.electronic" draft.willElectronic
    originalAvailable := flag "will.original_available" draft.willOriginalAvailable
    codicils := (o.value? "will.codicils" (Json.decodeList Codicil.decode)).getD
      ((draft.codicilDates.filter (fun raw => !Text.isBlankText raw)).map
        (fun raw => ⟨Date.ofRecord? raw⟩))
    hasAlterations := flag "will.has_alterations" draft.willHasAlterations
    hasObliterations := flag "will.has_obliterations" draft.willHasObliterations
    referencedDocuments :=
      (o.value? "will.referenced_documents" (Json.decodeList Json.decodeString)).getD
        (trimmedList draft.willReferencedDocuments)
    translationRequired := flag "will.translation_required" draft.willTranslationRequired
    electronicDemand :=
      { demanded := flag "will.electronic_demand.demanded" draft.electronicWillDemanded
        providedTo :=
          (o.value? "will.electronic_demand.provided_to"
            (Json.decodeList Json.decodeString)).getD
            (trimmedList draft.electronicWillProvidedTo) } }

/-- The grant made elsewhere: the one entered by hand or on record, which an
ancillary grant always has even if nothing is known of it. -/
def foreignGrant (b : CaseBundle) : Option ForeignGrant :=
  let recorded : ForeignGrant :=
    { court := Field.text b.case.foreignGrantCourt
      jurisdiction := Field.text b.case.foreignGrantJurisdiction
      issuedOn := Field.date? b.case.foreignGrantDate }
  let known := !recorded.court.isEmpty || !recorded.jurisdiction.isEmpty
    || recorded.issuedOn.isSome
  (b.overrides.value? "foreign_grant" ForeignGrant.decode).or
    (if b.grantType.isAncillary || known then some recorded else none)

/-! ## People -/

/-- The deceased. -/
def deceased (b : CaseBundle) : Deceased :=
  let o := b.overrides
  let c := b.case
  let recorded := PersonName.ofFields c.deceasedFirstName c.deceasedMiddleName
    c.deceasedLastName c.deceasedFullName
  let nation := (o.text? "deceased.treaty_first_nation").getD (Field.text c.treatyFirstNation)
  { name :=
      { first := (o.text? "deceased.first_name").getD recorded.first
        middle := (o.text? "deceased.middle_name").getD recorded.middle
        last := (o.text? "deceased.last_name").getD recorded.last }
    aliases := (o.value? "deceased.aliases" (Json.decodeList Json.decodeString)).getD
      (trimmedList c.deceasedAliases)
    dateOfDeath := (o.date? "deceased.date_of_death").or (Field.date? c.dateOfDeath)
    placeOfDeath := (o.text? "deceased.place_of_death").getD (Field.text c.placeOfDeath)
    lastAddress := (o.value? "deceased.last_address" Address.decode).getD
      (match c.lastAddress with
        | some a => a.address
        | none => {})
    domiciledInJurisdiction :=
      ((o.flag? "deceased.domiciled_in_jurisdiction").or c.domiciledInProvince).getD false
    indigenous :=
      { nisgaaCitizen := ((o.flag? "deceased.nisgaa_citizen").or c.nisgaaCitizen).getD false
        treatyFirstNationMember := !nation.isEmpty
        treatyFirstNation := nation } }

/-- The applicants. -/
def applicants (b : CaseBundle) : List Applicant :=
  (b.overrides.value? "applicants" (Json.decodeList Applicant.decode)).getD
    (applicantsOf b.executors)

/-- The executors who do not apply. -/
def otherExecutors (b : CaseBundle) : List OtherExecutor :=
  (b.overrides.value? "other_executors" (Json.decodeList OtherExecutor.decode)).getD
    (otherExecutorsOf b.executors)

/-- The payload of the interview, if there was one. -/
def payload? (b : CaseBundle) : Option Json := b.intake.map IntakeDraft.payload

/-- The family. -/
def family (b : CaseBundle) : Family :=
  let o := b.overrides
  let recorded := Family.ofRecords b.beneficiaries b.payload?
  { spouse :=
      { status := (o.value? "family.spouse.status" SpouseStatus.decode).getD
          recorded.spouse.status
        name := (o.text? "family.spouse.name").getD recorded.spouse.name }
    children := (o.value? "family.children" (Json.decodeList FamilyMember.decode)).getD
      recorded.children
    otherBeneficiaries :=
      (o.value? "family.other_beneficiaries" (Json.decodeList FamilyMember.decode)).getD
        recorded.otherBeneficiaries
    intestateSuccessors :=
      (o.value? "family.intestate_successors" (Json.decodeList IntestateSuccessor.decode)).getD
        recorded.intestateSuccessors }

/-! ## Assets and creditors -/

/-- The schedule on record: that of the case, or without one that of the
interview. -/
def recordedAssets (b : CaseBundle) : AssetSchedule :=
  if !b.schedules.isEmpty then AssetSchedule.ofRecords b.schedules
  else
    match b.payload? with
    | some payload => AssetSchedule.ofRecords (Intake.lines payload)
    | none => {}

/-- The assets. -/
def assets (b : CaseBundle) : AssetSchedule :=
  let o := b.overrides
  let recorded := b.recordedAssets
  { realProperty := (o.securedAssets? "assets.real_property").getD recorded.realProperty
    tangibleProperty :=
      (o.securedAssets? "assets.tangible_property").getD recorded.tangibleProperty
    intangibleProperty :=
      (o.assets? "assets.intangible_property").getD recorded.intangibleProperty
    outsideRealProperty :=
      (o.assets? "assets.outside_real_property").getD recorded.outsideRealProperty
    outsidePersonalProperty :=
      (o.assets? "assets.outside_personal_property").getD recorded.outsidePersonalProperty }

/-- The creditor of a record, if it names one. -/
def creditor? (r : CreditorRecord) : Option Creditor :=
  (Field.text? r.name).map (fun name => ⟨name, r.amount.bind Json.moneyAmount?⟩)

/-- The creditors. -/
def creditors (b : CaseBundle) : List Creditor :=
  (b.overrides.value? "creditors" (Json.decodeList Creditor.decode)).getD
    (b.case.creditors.filterMap creditor?)

/-! ## Delivery and filing -/

/-- The delivery of a record, if its method is known. -/
def delivery? (r : DeliveryRecord) : Option Delivery :=
  (DeliveryMethod.parse? (Field.text r.method)).map fun method =>
    { recipient := Field.text r.recipient
      method := method
      deliveredOn := Field.date? r.deliveredOn
      onBehalfOf := (Field.text? r.onBehalfOf).map (fun person => ⟨person, Field.text r.capacity⟩)
      acknowledged := r.acknowledged.getD false }

/-- The deliveries. -/
def deliveries (b : CaseBundle) : List Delivery :=
  (b.overrides.value? "deliveries" (Json.decodeList Delivery.decode)).getD
    (b.case.deliveries.filterMap delivery?)

/-- The people cited. -/
def citors (b : CaseBundle) : List String :=
  (b.overrides.value? "citors" (Json.decodeList Json.decodeString)).getD
    (trimmedList b.case.citors)

/-- The address for service; an empty one is none. -/
def addressForService (b : CaseBundle) : Option Address :=
  ((b.overrides.value? "filing.address_for_service" Address.decode).or
    (b.case.serviceAddress.map AddressRecord.address)).filter (fun a => !a.isEmpty)

/-- The filing. -/
def filing (b : CaseBundle) : Filing :=
  let o := b.overrides
  let c := b.case
  let flag (key : String) (derived : Option Bool) := ((o.flag? key).or derived).getD false
  { registry := (o.text? "filing.registry").getD (Field.text c.registry)
    submissionDate := (o.date? "filing.submission_date").or (Field.date? c.submissionDate)
    certifiedCopies := ((o.count? "filing.certified_copies").or c.certifiedCopies).getD 0
    addressForService := b.addressForService
    serviceEmail := (o.text? "filing.service_email").getD (Field.text c.serviceEmail)
    servicePhone := (o.text? "filing.service_phone").getD (Field.text c.servicePhone)
    jointAffidavit := flag "filing.joint_affidavit" c.jointAffidavit
    supplementalAffidavit := flag "filing.supplemental_affidavit" c.supplementalAffidavit
    willsSearchCertificate := flag "filing.wills_search_certificate" c.willsSearchCertificate
    assetsAffidavitSubmitted :=
      flag "filing.assets_affidavit_submitted" c.assetsAffidavitSubmitted
    deliveryWaived := flag "filing.delivery_waived" c.deliveryWaived }

/-! ## The estate -/

/-- The estate of a bundle. -/
def model (b : CaseBundle) : EstateModel :=
  { deceased := b.deceased
    grantType := b.grantType
    will := if b.grantType.impliesWill then some b.will else none
    applicants := b.applicants
    otherExecutors := b.otherExecutors
    family := b.family
    assets := b.assets
    deliveries := b.deliveries
    filing := b.filing
    citors := b.citors
    creditors := b.creditors
    foreignGrant := b.foreignGrant }

/-- The registry, or the default one when it is blank. -/
def registryOr (default : String) (registry : String) : String :=
  if Text.isBlankText registry && !default.isEmpty then default else registry

/-- The estate of a bundle, with the default registry when it names none. -/
def build (b : CaseBundle) (settings : DocumentSettings) : EstateModel :=
  let m := b.model
  { m with filing :=
      { m.filing with registry := registryOr settings.defaultRegistry m.filing.registry } }

end CaseBundle

end EstateFiling
