import EstateFiling.Case.Bundle
import EstateFiling.Proofs.Case.OverrideField

/-!
# Builders and their override fields

The override fields of each part of the estate, and that the part is built from
them: the deceased, the will, the family, the assets and the filing follow their
fields (`deceased_follows` and its siblings).

Each part is the part that the records alone give, filled with what was entered:
an entry that cannot be read leaves what the records say.
-/

namespace EstateFiling

open OverrideField ManualOverrides

/-- The bundle with other values entered by hand. -/
def CaseBundle.withOverrides (b : CaseBundle) (o : ManualOverrides) : CaseBundle :=
  { b with overrides := o }

/-- Reads a list. -/
abbrev listOf? {α : Type} (decode : Json.Decoder α) : Json → Option (List α) :=
  Json.decodeValue? (Json.decodeList decode)

theorem getD_map_some {α : Type} (x y : Option α) : (x.map some).getD y = x.or y := by
  cases x <;> rfl

theorem getD_map_filter {α : Type} (p : α → Bool) (x y : Option α) :
    (x.map fun a => (some a).filter p).getD (y.filter p) = (x.or y).filter p := by
  cases x <;> rfl

/-! ## The deceased -/

/-- What can be entered about the deceased.  The treaty first nation says whether
the deceased was a member of one, too. -/
def deceasedFields : List (OverrideField Deceased) :=
  [ofLens "deceased.first_name" textOf? id (·.name.first) (fun x d => { d with name.first := x }),
    ofLens "deceased.middle_name" textOf? id (·.name.middle)
      (fun x d => { d with name.middle := x }),
    ofLens "deceased.last_name" textOf? id (·.name.last) (fun x d => { d with name.last := x }),
    ofLens "deceased.treaty_first_nation" textOf? (fun nation => (nation, !nation.isEmpty))
      (fun d => (d.indigenous.treatyFirstNation, d.indigenous.treatyFirstNationMember))
      (fun x d => { d with
        indigenous.treatyFirstNation := x.1, indigenous.treatyFirstNationMember := x.2 }),
    ofLens "deceased.aliases" (listOf? Json.decodeString) id (·.aliases)
      (fun x d => { d with aliases := x }),
    ofLens "deceased.date_of_death" dateOf? some (·.dateOfDeath)
      (fun x d => { d with dateOfDeath := x }),
    ofLens "deceased.place_of_death" textOf? id (·.placeOfDeath)
      (fun x d => { d with placeOfDeath := x }),
    ofLens "deceased.last_address" (Json.decodeValue? Address.decode) id (·.lastAddress)
      (fun x d => { d with lastAddress := x }),
    ofLens "deceased.domiciled_in_jurisdiction" flagOf? id (·.domiciledInJurisdiction)
      (fun x d => { d with domiciledInJurisdiction := x }),
    ofLens "deceased.nisgaa_citizen" flagOf? id (·.indigenous.nisgaaCitizen)
      (fun x d => { d with indigenous.nisgaaCitizen := x })]

/-- The record of the deceased is built from its fields. -/
theorem deceased_follows (b : CaseBundle) :
    Follows (fun o => (b.withOverrides o).deceased) deceasedFields := by
  refine follows_of_fill (b.withOverrides {}).deceased (fun o => ?filled) ?lawful ?apart
  case filled =>
    -- A reading stays whole, so that the field compares what is put with what was read.
    simp [deceasedFields, CaseBundle.withOverrides, CaseBundle.deceased, text?, date?, flag?,
      value?, getD_map_some, Option.getD_map, -Option.map_bind]
  case lawful => simp [deceasedFields, lawful_ofLens]
  case apart => simp [deceasedFields, ofLens, Apart]

/-! ## The will -/

/-- What can be entered about the will. -/
def willFields : List (OverrideField Will) :=
  [ofLens "will.exists" flagOf? id (·.present) (fun x w => { w with present := x }),
    ofLens "will.signed_on" dateOf? some (·.signedOn) (fun x w => { w with signedOn := x }),
    ofLens "will.signed_at" textOf? id (·.signedAt) (fun x w => { w with signedAt := x }),
    ofLens "will.electronic" flagOf? id (·.electronic) (fun x w => { w with electronic := x }),
    ofLens "will.original_available" flagOf? id (·.originalAvailable)
      (fun x w => { w with originalAvailable := x }),
    ofLens "will.codicils" (listOf? Codicil.decode) id (·.codicils)
      (fun x w => { w with codicils := x }),
    ofLens "will.has_alterations" flagOf? id (·.hasAlterations)
      (fun x w => { w with hasAlterations := x }),
    ofLens "will.has_obliterations" flagOf? id (·.hasObliterations)
      (fun x w => { w with hasObliterations := x }),
    ofLens "will.referenced_documents" (listOf? Json.decodeString) id (·.referencedDocuments)
      (fun x w => { w with referencedDocuments := x }),
    ofLens "will.translation_required" flagOf? id (·.translationRequired)
      (fun x w => { w with translationRequired := x }),
    ofLens "will.electronic_demand.demanded" flagOf? id (·.electronicDemand.demanded)
      (fun x w => { w with electronicDemand.demanded := x }),
    ofLens "will.electronic_demand.provided_to" (listOf? Json.decodeString) id
      (·.electronicDemand.providedTo) (fun x w => { w with electronicDemand.providedTo := x })]

/-- The will is built from its fields. -/
theorem will_follows (b : CaseBundle) :
    Follows (fun o => (b.withOverrides o).will) willFields := by
  refine follows_of_fill (b.withOverrides {}).will (fun o => ?filled) ?lawful ?apart
  case filled =>
    simp [willFields, CaseBundle.withOverrides, CaseBundle.will, CaseBundle.hasWill?, text?,
      date?, flag?, value?, getD_map_some, -Option.map_bind]
  case lawful => simp [willFields, lawful_ofLens]
  case apart => simp [willFields, ofLens, Apart]

/-! ## The family -/

/-- What can be entered about the family. -/
def familyFields : List (OverrideField Family) :=
  [ofLens "family.spouse.status" (Json.decodeValue? SpouseStatus.decode) id (·.spouse.status)
      (fun x f => { f with spouse.status := x }),
    ofLens "family.spouse.name" textOf? id (·.spouse.name)
      (fun x f => { f with spouse.name := x }),
    ofLens "family.children" (listOf? FamilyMember.decode) id (·.children)
      (fun x f => { f with children := x }),
    ofLens "family.other_beneficiaries" (listOf? FamilyMember.decode) id (·.otherBeneficiaries)
      (fun x f => { f with otherBeneficiaries := x }),
    ofLens "family.intestate_successors"
      (listOf? IntestateSuccessor.decode) id (·.intestateSuccessors)
      (fun x f => { f with intestateSuccessors := x })]

/-- The family is built from its fields. -/
theorem family_follows (b : CaseBundle) :
    Follows (fun o => (b.withOverrides o).family) familyFields := by
  refine follows_of_fill (b.withOverrides {}).family (fun o => ?filled) ?lawful ?apart
  case filled =>
    simp [familyFields, CaseBundle.withOverrides, CaseBundle.family, CaseBundle.payload?, text?,
      value?]
  case lawful => simp [familyFields, lawful_ofLens]
  case apart => simp [familyFields, ofLens, Apart]

/-! ## The assets -/

/-- The collections of assets that can be entered. -/
def assetsFields : List (OverrideField AssetSchedule) :=
  [ofLens "assets.real_property" OverrideLine.securedAssets? id (·.realProperty)
      (fun x a => { a with realProperty := x }),
    ofLens "assets.tangible_property" OverrideLine.securedAssets? id (·.tangibleProperty)
      (fun x a => { a with tangibleProperty := x }),
    ofLens "assets.intangible_property" OverrideLine.assets? id (·.intangibleProperty)
      (fun x a => { a with intangibleProperty := x }),
    ofLens "assets.outside_real_property" OverrideLine.assets? id (·.outsideRealProperty)
      (fun x a => { a with outsideRealProperty := x }),
    ofLens "assets.outside_personal_property" OverrideLine.assets? id (·.outsidePersonalProperty)
      (fun x a => { a with outsidePersonalProperty := x })]

/-- The assets are built from their fields. -/
theorem assets_follows (b : CaseBundle) :
    Follows (fun o => (b.withOverrides o).assets) assetsFields := by
  refine follows_of_fill (b.withOverrides {}).assets (fun o => ?filled) ?lawful ?apart
  case filled =>
    simp [assetsFields, CaseBundle.withOverrides, CaseBundle.assets, CaseBundle.recordedAssets,
      CaseBundle.payload?, securedAssets?, assets?]
  case lawful => simp [assetsFields, lawful_ofLens]
  case apart => simp [assetsFields, ofLens, Apart]

/-! ## The filing -/

/-- What can be entered about the filing.  An empty address for service stands for
none. -/
def filingFields : List (OverrideField Filing) :=
  [ofLens "filing.registry" textOf? id (·.registry) (fun x f => { f with registry := x }),
    ofLens "filing.submission_date" dateOf? some (·.submissionDate)
      (fun x f => { f with submissionDate := x }),
    ofLens "filing.certified_copies" countOf? id (·.certifiedCopies)
      (fun x f => { f with certifiedCopies := x }),
    ofLens "filing.address_for_service" (Json.decodeValue? Address.decode)
      (fun a => (some a).filter fun a => !a.isEmpty) (·.addressForService)
      (fun x f => { f with addressForService := x }),
    ofLens "filing.service_email" textOf? id (·.serviceEmail)
      (fun x f => { f with serviceEmail := x }),
    ofLens "filing.service_phone" textOf? id (·.servicePhone)
      (fun x f => { f with servicePhone := x }),
    ofLens "filing.joint_affidavit" flagOf? id (·.jointAffidavit)
      (fun x f => { f with jointAffidavit := x }),
    ofLens "filing.supplemental_affidavit" flagOf? id (·.supplementalAffidavit)
      (fun x f => { f with supplementalAffidavit := x }),
    ofLens "filing.wills_search_certificate" flagOf? id (·.willsSearchCertificate)
      (fun x f => { f with willsSearchCertificate := x }),
    ofLens "filing.assets_affidavit_submitted" flagOf? id (·.assetsAffidavitSubmitted)
      (fun x f => { f with assetsAffidavitSubmitted := x }),
    ofLens "filing.delivery_waived" flagOf? id (·.deliveryWaived)
      (fun x f => { f with deliveryWaived := x })]

/-- The filing is built from its fields. -/
theorem filing_follows (b : CaseBundle) :
    Follows (fun o => (b.withOverrides o).filing) filingFields := by
  refine follows_of_fill (b.withOverrides {}).filing (fun o => ?filled) ?lawful ?apart
  case filled =>
    simp [filingFields, CaseBundle.withOverrides, CaseBundle.filing,
      CaseBundle.addressForService, text?, date?, flag?, count?, value?, getD_map_some,
      getD_map_filter, -Option.map_bind]
  case lawful => simp [filingFields, lawful_ofLens]
  case apart => simp [filingFields, ofLens, Apart]

/-! ## Lists that are entered as a whole -/

/-- The applicants. -/
def applicantsFields : List (OverrideField (List Applicant)) :=
  [whole "applicants" (listOf? Applicant.decode)]

theorem applicants_follows (b : CaseBundle) :
    Follows (fun o => (b.withOverrides o).applicants) applicantsFields :=
  follows_getD _ _ (applicantsOf b.executors)

/-- The executors who do not apply. -/
def otherExecutorsFields : List (OverrideField (List OtherExecutor)) :=
  [whole "other_executors" (listOf? OtherExecutor.decode)]

theorem otherExecutors_follows (b : CaseBundle) :
    Follows (fun o => (b.withOverrides o).otherExecutors) otherExecutorsFields :=
  follows_getD _ _ (otherExecutorsOf b.executors)

/-- The deliveries. -/
def deliveriesFields : List (OverrideField (List Delivery)) :=
  [whole "deliveries" (listOf? Delivery.decode)]

theorem deliveries_follows (b : CaseBundle) :
    Follows (fun o => (b.withOverrides o).deliveries) deliveriesFields :=
  follows_getD _ _ (b.case.deliveries.filterMap CaseBundle.delivery?)

/-- The people cited. -/
def citorsFields : List (OverrideField (List String)) :=
  [whole "citors" (listOf? Json.decodeString)]

theorem citors_follows (b : CaseBundle) :
    Follows (fun o => (b.withOverrides o).citors) citorsFields :=
  follows_getD _ _ (CaseBundle.trimmedList b.case.citors)

/-- The creditors. -/
def creditorsFields : List (OverrideField (List Creditor)) :=
  [whole "creditors" (listOf? Creditor.decode)]

theorem creditors_follows (b : CaseBundle) :
    Follows (fun o => (b.withOverrides o).creditors) creditorsFields :=
  follows_getD _ _ (b.case.creditors.filterMap CaseBundle.creditor?)

end EstateFiling
