import EstateFiling.Form.Deponents

/-!
# Submission for estate grant

Form P2, the first sheet of the application.  Part 1 is about the deceased and
the grant, part 2 about the applicants, part 3 lists the documents that are
filed, and part 4, for a grant that rests on a will, the people interested in the
estate.
-/

namespace EstateFiling.Submission

/-! ## Clauses -/

/-- The grant applied for. -/
def grantType : ClauseTable EstateModel where
  group := "grant_type"
  fallback := GrantType.probate.id
  clauses := GrantType.all.map (fun g => ⟨g.id, fun m => m.grantType = g⟩)

/-- Whether the deceased was a Nisga'a citizen. -/
def nisgaa : ClauseTable EstateModel where
  group := "nisgaa"
  fallback := "not_nisgaa_citizen"
  clauses :=
    [⟨"nisgaa_citizen", fun m => m.deceased.indigenous.nisgaaCitizen⟩,
      ⟨"not_nisgaa_citizen", fun m => !m.deceased.indigenous.nisgaaCitizen⟩]

/-- Whether the deceased was a member of a treaty first nation. -/
def treatyFirstNation : ClauseTable EstateModel where
  group := "treaty_first_nation"
  fallback := "not_member"
  clauses :=
    [⟨"member", fun m => m.deceased.indigenous.treatyFirstNationMember⟩,
      ⟨"not_member", fun m => !m.deceased.indigenous.treatyFirstNationMember⟩]

/-- Whether the deceased was domiciled in the province. -/
def domicile : ClauseTable EstateModel where
  group := "domicile"
  fallback := "not_domiciled"
  clauses :=
    [⟨"domiciled", fun m => m.deceased.domiciledInJurisdiction⟩,
      ⟨"not_domiciled", fun m => !m.deceased.domiciledInJurisdiction⟩]

/-- Whether certified copies are asked for. -/
def certifiedCopies : ClauseTable EstateModel where
  group := "certified_copies"
  fallback := "none_requested"
  clauses := [⟨"requested", fun m => 0 < m.filing.certifiedCopies⟩]

/-- How the applicants swear their affidavits. -/
def affidavitMode : ClauseTable EstateModel where
  group := "affidavit_mode"
  fallback := "single_applicant"
  clauses :=
    [⟨"single_applicant", fun m =>
        m.isSoleApplicant && !m.filing.jointAffidavit && !m.filing.supplementalAffidavit⟩,
      ⟨"separate_affidavits", fun m =>
        !m.isSoleApplicant && !m.filing.jointAffidavit && !m.filing.supplementalAffidavit⟩,
      ⟨"joint_affidavit", fun m =>
        m.filing.jointAffidavit && !m.filing.supplementalAffidavit⟩,
      ⟨"supplemental_p8", fun m => m.filing.supplementalAffidavit⟩]

/-- Whether the affidavit of delivery is filed. -/
def deliveryAffidavit : ClauseTable EstateModel where
  group := "delivery_affidavit"
  fallback := "not_filed"
  clauses :=
    [⟨"filed", fun m => !m.filing.deliveryWaived && !m.deliveries.isEmpty⟩,
      ⟨"waived", fun m => m.filing.deliveryWaived⟩,
      ⟨"not_filed", fun m => !m.filing.deliveryWaived && m.deliveries.isEmpty⟩]

/-- Whether the certificate of the wills search is filed. -/
def willsSearch : ClauseTable EstateModel where
  group := "wills_search"
  fallback := "not_filed"
  clauses :=
    [⟨"filed", fun m => m.filing.willsSearchCertificate⟩,
      ⟨"not_filed", fun m => !m.filing.willsSearchCertificate⟩]

/-- What is filed of the will. -/
def willDocuments : ClauseTable EstateModel where
  group := "will_documents"
  fallback := "no_will"
  clauses :=
    [⟨"originals", fun m => m.willExists && m.will.any Will.originalAvailable⟩,
      ⟨"copies", fun m => m.willExists && !m.will.any Will.originalAvailable⟩,
      ⟨"no_will", fun m => !m.willExists⟩]

/-- Whether the affidavit of assets is filed. -/
def assetsAffidavit : ClauseTable EstateModel where
  group := "assets_affidavit"
  fallback := "not_filed"
  clauses :=
    [⟨"filed", fun m => m.filing.assetsAffidavitSubmitted⟩,
      ⟨"not_filed", fun m => !m.filing.assetsAffidavitSubmitted⟩]

/-- Whether a translation of the will is required. -/
def translation : ClauseTable EstateModel where
  group := "translation"
  fallback := "not_required"
  clauses := [⟨"required", fun m => m.willExists && m.will.any Will.translationRequired⟩]

/-- Whether renunciations are filed. -/
def renunciations : ClauseTable EstateModel where
  group := "renunciations"
  fallback := "none"
  clauses :=
    [⟨"filed", fun m => m.hasRenunciations⟩, ⟨"none", fun m => !m.hasRenunciations⟩]

/-- Whether the foreign grant is attached. -/
def foreignGrant : ClauseTable EstateModel where
  group := "foreign_grant"
  fallback := "not_applicable"
  clauses :=
    [⟨"attached", fun m => m.grantType.isAncillary⟩,
      ⟨"not_applicable", fun m => !m.grantType.isAncillary⟩]

/-! ## Header -/

/-- The title. -/
def title : String := "SUBMISSION FOR ESTATE GRANT"

/-- The caption of the form. -/
def header (style : StyleProfile) (m : EstateModel) : Section where
  id := "header"
  heading := none
  blocks := [Form.reference style "P2" "Rules 25-3 (2), 25-3 (11)"] ++ Form.courtCaption style m
    ++ [Compose.title style title,
      Compose.text style
        ("This submission for estate grant is made by the applicant(s) listed in Part 2 in "
          ++ "relation to the estate of " ++ Form.deceasedName m
          ++ ", deceased, and is submitted to the " ++ Filler.orDots m.filing.registry 20
          ++ " registry.")]

/-! ## Part 1 -/

/-- A text with a capital first letter. -/
def capitalized (s : String) : String :=
  match s.toList with
  | c :: rest => String.ofList (Text.upperChar c ++ rest)
  | [] => ""

/-- The wording of the grants. -/
def grantOptions : List (String × String) :=
  GrantType.all.map (fun g => (g.id, capitalized g.label))

/-- The wording of Nisga'a citizenship. -/
def nisgaaOptions : List (String × String) :=
  [("nisgaa_citizen", "Yes"), ("not_nisgaa_citizen", "No")]

/-- The wording of the membership of a treaty first nation. -/
def treatyOptions (m : EstateModel) : List (String × String) :=
  [("member",
      "Yes, of the following treaty first nation: "
        ++ Filler.orDots m.deceased.indigenous.treatyFirstNation 20),
    ("not_member", "No")]

/-- The wording of the domicile. -/
def domicileOptions : List (String × String) := [("domiciled", "Yes"), ("not_domiciled", "No")]

/-- The deceased and the grant. -/
def deceasedPart (style : StyleProfile) (m : EstateModel) : Section where
  id := "part_1"
  heading := some "PART 1: DECEASED'S INFORMATION"
  blocks :=
    [Compose.numbered style "1." ("First name: " ++ Filler.orDots m.deceased.name.first 20),
      Compose.numbered style "2." ("Middle name(s): " ++ Filler.orDots m.deceased.name.middle 20),
      Compose.numbered style "3." ("Last name: " ++ Filler.orDots m.deceased.name.last 20),
      Compose.numbered style "4." "Other names by which the deceased was known:"]
    ++ Compose.enumerationOrNone style m.deceased.aliases
    ++ [Compose.numbered style "5."
        ("Last residential address: " ++ Filler.addressOrDots m.deceased.lastAddress 40),
      Compose.numbered style "6."
        ("Date of death: " ++ Filler.dateOrDots m.deceased.dateOfDeath 20),
      Compose.numbered style "7." "The applicant(s) apply for the following grant:",
      Compose.passage style grantType m grantOptions,
      Compose.numbered style "8." "Was the deceased a Nisga'a citizen?",
      Compose.passage style nisgaa m nisgaaOptions,
      Compose.numbered style "9." "Was the deceased a member of a treaty first nation?",
      Compose.passage style treatyFirstNation m (treatyOptions m),
      Compose.numbered style "10."
        "Was the deceased ordinarily resident in British Columbia at death?",
      Compose.passage style domicile m domicileOptions]

/-! ## Part 2 -/

/-- The entry of one applicant. -/
def contactEntry (style : StyleProfile) (index : Nat) (a : Applicant) : Block :=
  Compose.numbered style (toString (index + 1) ++ ".")
    ("Name: " ++ Filler.orDots a.displayName 30 ++ "  Address: "
      ++ Filler.addressOrDots a.address 40)

/-- The text of the address for service: the one given, or the first
applicant's. -/
def serviceText (m : EstateModel) : String :=
  match m.filing.addressForService, m.applicants with
  | some a, _ => a.text
  | none, a :: _ => a.address.text
  | none, [] => ""

/-- The wording of the number of certified copies. -/
def copiesText (count : UInt32) : String :=
  "The applicant(s) request " ++ toString count.toNat ++ " certified cop"
    ++ (if count = 1 then "y" else "ies") ++ " of the estate grant."

/-- The wording of the certified copies. -/
def copiesOptions (m : EstateModel) : List (String × String) :=
  [("requested", copiesText m.filing.certifiedCopies),
    ("none_requested", "The applicant(s) do not request certified copies of the estate grant.")]

/-- The applicants. -/
def applicantPart (style : StyleProfile) (m : EstateModel) : Section where
  id := "part_2"
  heading := some "PART 2: CONTACT INFORMATION FOR APPLICANT(S)"
  blocks :=
    (Deponents.together m).membersOrBlank.mapIdx (contactEntry style)
      ++ [Compose.paragraph style
          ("Address for service: " ++ Filler.orDots (serviceText m) 40) { bold := true },
        Compose.text style
          ("Email: " ++ Filler.orDots m.filing.serviceEmail 30 ++ "    Telephone: "
            ++ Filler.orDots m.filing.servicePhone 20),
        Compose.passage style certifiedCopies m (copiesOptions m)
          (some "Certified copies of the estate grant:")]

/-! ## Part 3 -/

/-- The wording of the applicants' affidavits. -/
def modeOptions (m : EstateModel) : List (String × String) :=
  let form := Form.applicantAffidavit m.grantType
  [("single_applicant", "an affidavit of the applicant in Form " ++ form),
    ("separate_affidavits", "an affidavit in Form " ++ form ++ " of each of the applicants"),
    ("joint_affidavit", "a joint affidavit of the applicants in Form " ++ form),
    ("supplemental_p8", "a supplemental affidavit of the applicant(s) in Form P8")]

/-- The wording of the affidavit of delivery. -/
def deliveryOptions : List (String × String) :=
  [("filed",
      "an affidavit of delivery in Form P9 that confirms delivery of the notice of "
        ++ "proposed application"),
    ("waived", "no affidavit of delivery, as no person is entitled to notice"),
    ("not_filed", "the affidavit of delivery will be filed later: " ++ Filler.dots 20)]

/-- The wording of the wills search. -/
def willsSearchOptions : List (String × String) :=
  [("filed",
      "a certificate of the chief executive officer under the Vital Statistics Act "
        ++ "indicating the results of a search for a wills notice"),
    ("not_filed", "the wills notice search certificate is to follow")]

/-- The wording of what is filed of the will. -/
def willOptions : List (String × String) :=
  [("originals", "the originally signed will and any codicils"),
    ("copies",
      "copies of the will and any codicils, with an affidavit explaining why the "
        ++ "originals are not available"),
    ("no_will", "no will, as the deceased did not leave a will")]

/-- The wording of the affidavit of assets. -/
def assetsOptions : List (String × String) :=
  [("filed", "an affidavit of assets and liabilities in Form P10"),
    ("not_filed", "the affidavit of assets and liabilities is to follow")]

/-- The wording of the translation. -/
def translationOptions : List (String × String) :=
  [("required", "a translation of the will and an affidavit of the translator"),
    ("not_required", "no translation is required")]

/-- The wording of the renunciations. -/
def renunciationOptions : List (String × String) :=
  [("filed",
      "a renunciation executed by each executor named in the will who is not "
        ++ "applying and has renounced"),
    ("none", "no renunciations")]

/-- The wording of the foreign grant. -/
def foreignOptions (m : EstateModel) : List (String × String) :=
  let foreign := m.foreignGrant.getD {}
  [("attached",
      "a copy of the grant issued by " ++ Filler.orDots foreign.court 20 ++ " of "
        ++ Filler.orDots foreign.jurisdiction 20 ++ ", certified by that court"),
    ("not_applicable", "not applicable")]

/-- The documents that are filed. -/
def documentsPart (style : StyleProfile) (m : EstateModel) : Section where
  id := "part_3"
  heading := some "PART 3: DOCUMENTS FILED WITH THIS SUBMISSION FOR ESTATE GRANT"
  blocks :=
    [Compose.numbered style "1." "Affidavit(s) of applicant:",
      Compose.passage style affidavitMode m (modeOptions m),
      Compose.numbered style "2." "Affidavit of delivery:",
      Compose.passage style deliveryAffidavit m deliveryOptions,
      Compose.numbered style "3." "Wills notice search:",
      Compose.passage style willsSearch m willsSearchOptions,
      Compose.numbered style "4." "Will:",
      Compose.passage style willDocuments m willOptions,
      Compose.numbered style "5." "Affidavit of assets and liabilities:",
      Compose.passage style assetsAffidavit m assetsOptions,
      Compose.numbered style "6." "Translation:",
      Compose.passage style translation m translationOptions,
      Compose.numbered style "7." "Renunciations:",
      Compose.passage style renunciations m renunciationOptions,
      Compose.numbered style "8." "Foreign grant:",
      Compose.passage style foreignGrant m (foreignOptions m)]

/-! ## Part 4 -/

/-- The entry of a spouse. -/
def spouseEntries (s : Spouse) : List String :=
  match s.status with
  | .surviving => [Filler.orDots s.name 30]
  | .deceased => [Filler.orDots s.name 30 ++ " (deceased)"]
  | .neverMarried | .unspecified => []

/-- The entry of a child or another beneficiary. -/
def memberEntry (member : FamilyMember) : String :=
  Filler.orDots member.name 30 ++ (if member.surviving then "" else " (deceased)")

/-- The entry of an intestate successor. -/
def successorEntry (s : IntestateSuccessor) : String :=
  if s.relationship.isEmpty then s.name else s.name ++ " (" ++ s.relationship ++ ")"

/-- The lists of the schedule with their captions. -/
def scheduleLists (m : EstateModel) : List (String × List String) :=
  [("Executors to whom power is reserved",
      (m.otherExecutors.filter (fun e => e.disposition = .powerReserved)).map
        OtherExecutor.name),
    ("Spouse of the deceased", spouseEntries m.family.spouse),
    ("Children of the deceased", m.family.children.map memberEntry),
    ("Other beneficiaries under the will", m.family.otherBeneficiaries.map memberEntry),
    ("Intestate successors", m.family.intestateSuccessors.map successorEntry),
    ("Citors", m.citors)]

/-- A numbered caption and the entries under it. -/
def scheduleList (style : StyleProfile) (index : Nat) (list : String × List String) :
    List Block :=
  Compose.numbered style (toString (index + 1) ++ ".") list.1
    :: Compose.enumerationOrNone style list.2

/-- The people interested in the estate. -/
def schedulePart (style : StyleProfile) (m : EstateModel) : Section where
  id := "part_4"
  heading := some "PART 4: SCHEDULE"
  blocks := ((scheduleLists m).mapIdx (scheduleList style)).flatten

/-! ## The form -/

/-- The places to sign. -/
def signatures (style : StyleProfile) (m : EstateModel) : Section where
  id := "signatures"
  heading := none
  blocks := Compose.dateLine style "Date" m.filing.submissionDate
    :: Compose.signatures style m.applicantNames "Signature of applicant"

/-- The submission of an estate. -/
def document (style : StyleProfile) (m : EstateModel) : DocumentContent where
  kind := .submission
  title := title
  style := style
  sections :=
    [header style m, deceasedPart style m, applicantPart style m, documentsPart style m]
      ++ (if m.grantType.impliesWill then [schedulePart style m] else [])
      ++ [signatures style m]

end EstateFiling.Submission
