import EstateFiling.Form.Deponents

/-!
# Notice of proposed application

Form P1, which is delivered to everyone entitled to notice before the submission
is filed.  It says what grant is applied for and on what basis, who applies, and
what the recipient may do.
-/

namespace EstateFiling.Notice

/-! ## Clauses -/

/-- What the application is based on. -/
def willBasis : ClauseTable EstateModel where
  group := "will_basis"
  fallback := "undetermined"
  clauses :=
    [⟨"no_will", fun m => !m.grantType.impliesWill && !m.grantType.isAncillary⟩,
      ⟨"physical_will", fun m =>
        !m.grantType.isAncillary && m.willExists && !m.will.any Will.electronic⟩,
      ⟨"electronic_will", fun m =>
        !m.grantType.isAncillary && m.willExists && m.will.any Will.electronic⟩,
      ⟨"foreign_grant", fun m => m.grantType.isAncillary⟩]

/-- Whether a copy of an electronic will was demanded. -/
def electronicWillCopy : ClauseTable EstateModel where
  group := "electronic_will_copy"
  fallback := "copy_attached"
  clauses := [⟨"demanded", fun m => m.will.any (fun w => w.electronicDemand.demanded)⟩]

/-- Whether the address for service is another than the first applicant's. -/
def serviceAddress : ClauseTable EstateModel where
  group := "service_address"
  fallback := "mailing"
  clauses :=
    [⟨"distinct", fun m =>
      m.filing.addressForService.any
        (fun service => m.applicants.head?.map Applicant.address != some service)⟩]

/-- Whether the Nisga'a or a treaty first nation has to have notice. -/
def indigenousNotice : ClauseTable EstateModel where
  group := "indigenous_notice"
  fallback := "none"
  clauses :=
    [⟨"nisgaa", fun m => m.deceased.indigenous.nisgaaCitizen⟩,
      ⟨"treaty_first_nation", fun m =>
        !m.deceased.indigenous.nisgaaCitizen
          && m.deceased.indigenous.treatyFirstNationMember⟩]

/-! ## Sections -/

/-- The title. -/
def title : String := "NOTICE OF PROPOSED APPLICATION IN FORM P1"

/-- The caption of the form. -/
def header (style : StyleProfile) (m : EstateModel) : Section where
  id := "header"
  heading := none
  blocks := [Form.reference style "P1" "Rules 25-2 (2) and (3)"] ++ Form.courtCaption style m
    ++ [Compose.title style title]

/-- The wording of each basis of the application. -/
def basisOptions (m : EstateModel) : List (String × String) :=
  let signedOn := Filler.dateOrDots (m.will.bind Will.signedOn) 20
  let foreign := m.foreignGrant.getD {}
  [("no_will",
      "The deceased did not leave a will; the applicant(s) propose to apply for a "
        ++ "grant of administration without will annexed."),
    ("physical_will",
      "The applicant(s) propose to apply for a grant in relation to the will of the deceased dated "
        ++ signedOn ++ ". A copy of the will is attached to this notice."),
    ("electronic_will",
      "The applicant(s) propose to apply for a grant in relation to the electronic will "
        ++ "of the deceased dated " ++ signedOn ++ "."),
    ("foreign_grant",
      "The applicant(s) propose to apply for the resealing of, or an ancillary grant based on, "
        ++ "a grant issued by " ++ Filler.orDots foreign.court 20 ++ " of "
        ++ Filler.orDots foreign.jurisdiction 20 ++ " on "
        ++ Filler.dateOrDots foreign.issuedOn 20
        ++ ". A copy of that grant is attached to this notice."),
    ("undetermined", "The basis of the application is: " ++ Filler.dots 40)]

/-- The wording of each way a copy of an electronic will is given. -/
def electronicWillOptions (m : EstateModel) : List (String × String) :=
  [("demanded",
      "A copy of the electronic will was demanded and has been provided in the form demanded to: "
        ++ Form.copyRecipients m),
    ("copy_attached", "A paper copy of the electronic will is attached to this notice.")]

/-- What is applied for. -/
def application (style : StyleProfile) (m : EstateModel) : Section where
  id := "application"
  heading := none
  blocks :=
    [Compose.paragraph style "TAKE NOTICE THAT:" { bold := true },
      Compose.numbered style "1."
        ("The applicant(s) named in this notice propose to apply, in the "
          ++ Filler.orDots m.filing.registry 20 ++ " registry of the court, for a "
          ++ m.grantType.label
          ++ " in relation to the estate of the deceased described below:"),
      Compose.numberedAt style "(a)"
        ("Full legal name of the deceased: " ++ Form.deceasedName m) 1,
      Compose.numberedAt style "(b)"
        ("Other names by which the deceased was known: "
          ++ (if m.deceased.aliases.isEmpty then Compose.noneText
            else Filler.joinList m.deceased.aliases)) 1,
      Compose.numberedAt style "(c)"
        ("Last residential address of the deceased: "
          ++ Filler.addressOrDots m.deceased.lastAddress 40) 1,
      Compose.numberedAt style "(d)"
        ("Date of death: " ++ Filler.dateOrDots m.deceased.dateOfDeath 20) 1,
      Compose.numbered style "2." "The application is based on the following:",
      Compose.passage style willBasis m (basisOptions m)]
    ++ (if (willBasis.select m).isActive "electronic_will" then
        [Compose.passage style electronicWillCopy m (electronicWillOptions m)]
      else [])

/-- The information about one applicant. -/
def applicantBlocks (style : StyleProfile) (index : Nat) (a : Applicant) : List Block :=
  [Compose.paragraph style ("Applicant " ++ toString (index + 1)) { bold := true },
    Compose.paragraph style ("Name: " ++ Filler.orDots a.displayName 30) { indent := 1 },
    Compose.paragraph style ("Mailing address: " ++ Filler.addressOrDots a.address 40)
      { indent := 1 }]

/-- The text of the address for service, blank when there is none. -/
def serviceText (m : EstateModel) : String :=
  match m.filing.addressForService with
  | some a => a.text
  | none => ""

/-- The wording of the address for service. -/
def serviceOptions (m : EstateModel) : List (String × String) :=
  [("mailing", "The address for service is the mailing address of the applicant shown above."),
    ("distinct", "The address for service is: " ++ Filler.orDots (serviceText m) 40)]

/-- Who applies, and where they can be served. -/
def applicants (style : StyleProfile) (m : EstateModel) : Section where
  id := "applicants"
  heading := some "Applicant information"
  blocks :=
    ((Deponents.together m).membersOrBlank.mapIdx (applicantBlocks style)).flatten
      ++ [Compose.passage style serviceAddress m (serviceOptions m)
          (some "Address for service of the applicant(s):"),
        Compose.paragraph style
          ("Email address for service: " ++ Filler.orDots m.filing.serviceEmail 30)
          { indent := 1 },
        Compose.paragraph style
          ("Telephone number for service: " ++ Filler.orDots m.filing.servicePhone 20)
          { indent := 1 }]

/-- The wording of the deceased's citizenship. -/
def indigenousOptions (m : EstateModel) : List (String × String) :=
  [("nisgaa",
      "The deceased was a Nisga'a citizen; a copy of this notice must also be "
        ++ "delivered to the Nisga'a Lisims Government."),
    ("treaty_first_nation",
      "The deceased was a member of the "
        ++ Filler.orDots m.deceased.indigenous.treatyFirstNation 20
        ++ " treaty first nation; a copy of this notice must also be delivered to that "
        ++ "treaty first nation."),
    ("none",
      "The deceased was neither a Nisga'a citizen nor a member of a treaty first nation.")]

/-- What the recipient may do. -/
def notices (style : StyleProfile) (m : EstateModel) : Section where
  id := "notices"
  heading := some "Notices to recipients"
  blocks :=
    [Compose.numbered style "3."
        ("The applicant(s) may submit the submission for estate grant to the court registry "
          ++ "after 21 days have passed since this notice was delivered to you."),
      Compose.numbered style "4."
        ("If you are a person to whom this notice is delivered, you may be entitled to "
          ++ "contest the will or to claim against the estate under the Wills, Estates and "
          ++ "Succession Act. You should obtain legal advice promptly, as time limits apply."),
      Compose.numbered style "5."
        ("You may file a notice of dispute in the registry to prevent a grant from issuing "
          ++ "without notice to you."),
      Compose.passage style indigenousNotice m (indigenousOptions m)
        (some "Indigenous status of the deceased:")]
    ++ (if m.grantType = .administrationWithoutWill then
        [Compose.numbered style "6."
          ("If you believe the deceased left a will, you should advise the applicant(s) "
            ++ "immediately.")]
      else [])

/-- The places to sign. -/
def signatures (style : StyleProfile) (m : EstateModel) : Section where
  id := "signatures"
  heading := none
  blocks := Compose.dateLine style "Date" m.filing.submissionDate
    :: Compose.signatures style m.applicantNames "Signature of applicant"

/-- The notice of an estate. -/
def document (style : StyleProfile) (m : EstateModel) : DocumentContent where
  kind := .notice
  title := title
  style := style
  sections :=
    [header style m, application style m, applicants style m, notices style m,
      signatures style m]

end EstateFiling.Notice
