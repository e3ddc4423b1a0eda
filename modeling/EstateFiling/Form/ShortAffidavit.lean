import EstateFiling.Form.Deponents

/-!
# Affidavit of applicant under a will

Form P3, the short form.  Each group of deponents swears one affidavit, and its
Exhibit A, the will, follows it.  A passage about the will affirms something only
when the will exists.
-/

namespace EstateFiling.ShortAffidavit

/-! ## Clauses -/

/-- Why an applicant may apply. -/
def standing : ClauseTable Applicant where
  group := "applicant_standing"
  fallback := "unspecified"
  clauses :=
    [⟨"named_executor", Applicant.namedInWill⟩,
      ⟨"by_relationship", fun a => !a.namedInWill && a.relationship != .unspecified⟩]

/-- Whether the will was found. -/
def willRecital : ClauseTable EstateModel where
  group := "will_recital"
  fallback := "not_located"
  clauses := [⟨"located", EstateModel.willExists⟩]

/-- Whether the will has codicils. -/
def codicils : ClauseTable EstateModel where
  group := "codicils"
  fallback := "none"
  clauses := [⟨"present", fun m => m.willExists && m.will.any (fun w => !w.codicils.isEmpty)⟩]

/-- Whether there are executors who do not apply. -/
def otherExecutors : ClauseTable EstateModel where
  group := "other_executors"
  fallback := "none"
  clauses := [⟨"listed", fun m => !m.otherExecutors.isEmpty⟩]

/-- The condition of the will. -/
def alterations : ClauseTable EstateModel where
  group := "alterations"
  fallback := "no_alterations"
  clauses :=
    [⟨"alterations", fun m =>
        m.willExists && m.will.any (fun w => w.hasAlterations && !w.hasObliterations)⟩,
      ⟨"obliterations", fun m => m.willExists && m.will.any Will.hasObliterations⟩]

/-- Whether the will refers to documents. -/
def referencedDocuments : ClauseTable EstateModel where
  group := "referenced_documents"
  fallback := "none"
  clauses :=
    [⟨"listed", fun m => m.willExists && m.will.any (fun w => !w.referencedDocuments.isEmpty)⟩]

/-! ## Wording -/

/-- The title. -/
def title : String :=
  "AFFIDAVIT OF APPLICANT FOR GRANT OF PROBATE OR GRANT OF ADMINISTRATION WITH WILL ANNEXED"

/-- The wording of an applicant's standing. -/
def standingOptions (a : Applicant) : List (String × String) :=
  [("named_executor", "is named as an executor in the will"),
    ("by_relationship",
      "is not named as an executor in the will and applies as the "
        ++ Filler.orDots a.relationship.label 20 ++ " of the deceased"),
    ("unspecified", "applies on the following basis: " ++ Filler.dots 40)]

/-- The wording of the will. -/
def recitalOptions (d : Deponents) (will : Will) : List (String × String) :=
  [("located",
      d.pronoun ++ " believe that the document attached as Exhibit A to this affidavit is the "
        ++ "last will of the deceased, made on " ++ Filler.dateOrDots will.signedOn 20 ++ " at "
        ++ Filler.orDots will.signedAt 20 ++ "."),
    ("not_located",
      "The last will of the deceased has not been located: " ++ Filler.dots 30)]

/-- The wording of the codicils. -/
def codicilOptions (d : Deponents) (will : Will) : List (String × String) :=
  [("present",
      "The will is accompanied by " ++ toString will.codicils.length ++ " codicil(s), dated "
        ++ Filler.joinList (will.codicils.map (fun c => Filler.dateOrDots c.signedOn 16))
        ++ ", which form part of Exhibit A."),
    ("none", d.pronoun ++ " " ++ d.be ++ " not aware of any codicil to the will.")]

/-- The wording of the other executors. -/
def otherExecutorOptions : List (String × String) :=
  [("listed",
      "The following persons named as executors are not applying, for the reasons shown:"),
    ("none", "No person other than the applicant(s) is named as executor in the will.")]

/-- The entry of an executor who does not apply. -/
def otherExecutorEntry (e : OtherExecutor) : String :=
  Filler.orDots e.name 30 ++ ", who " ++ e.disposition.reason ++ "."

/-- What is sworn of every will. -/
def executionRecitals : List String :=
  ["is in writing;",
    "was signed at its end by the will-maker, or the signature at its end was acknowledged by "
      ++ "the will-maker as theirs, in the presence of 2 or more witnesses present at the same "
      ++ "time; and",
    "was signed by 2 or more of the witnesses in the presence of the will-maker."]

/-- The wording of the will's condition. -/
def alterationOptions : List (String × String) :=
  [("no_alterations", "The will contains no alterations, erasures or obliterations."),
    ("alterations",
      "The will contains alterations made before it was signed, as explained in an "
        ++ "accompanying affidavit."),
    ("obliterations",
      "The will contains obliterations or erasures, as explained in an accompanying "
        ++ "affidavit.")]

/-- The wording of the documents that the will refers to. -/
def referencedOptions (will : Will) : List (String × String) :=
  [("listed",
      "The will refers to the following documents: "
        ++ Filler.joinList will.referencedDocuments),
    ("none", "The will does not refer to any other document.")]

/-! ## Sections -/

/-- The standing of one member, captioned when there are several. -/
def standingPassage (style : StyleProfile) (d : Deponents) (offset : Nat) (a : Applicant) :
    Block :=
  Compose.choice style (Form.numberedId standing.group (d.firstIndex + offset))
    (if d.isJoint then some (Filler.orDots a.displayName 30 ++ ":") else none)
    (standing.select a) (standingOptions a)

/-- The affidavit with a number. -/
def affidavit (style : StyleProfile) (m : EstateModel) (number : Nat) (d : Deponents) :
    Section where
  id := Form.numberedId "affidavit" number
  heading := none
  blocks :=
    let will := m.will.getD {}
    (if 1 < number then [Block.pageBreak] else [])
      ++ Form.affidavitOpening style m "P3" title d
      ++ [Compose.numbered style "1."
          (d.pronoun ++ " " ++ d.be ++ " " ++ d.role ++ " for a " ++ m.grantType.label
            ++ " in relation to the estate of " ++ Form.deceasedName m
            ++ ", deceased, and make this affidavit in support of the submission for estate "
            ++ "grant."),
        Compose.numbered style "2." ("As to " ++ d.possessive ++ " standing to apply:")]
      ++ d.membersOrBlank.mapIdx (standingPassage style d)
      ++ [Compose.numbered style "3." "As to the will:",
        Compose.passage style willRecital m (recitalOptions d will),
        Compose.passage style codicils m (codicilOptions d will),
        Compose.numbered style "4." "As to the other executors named in the will:",
        Compose.passage style otherExecutors m otherExecutorOptions]
      ++ Compose.enumeration style (m.otherExecutors.map otherExecutorEntry) 2
      ++ [Compose.numbered style "5."
          (d.pronoun ++ " have made a diligent search for any testamentary document of the "
            ++ "deceased and the results of the search for a wills notice are reflected in the "
            ++ "submission for estate grant."),
        Compose.numbered style "6."
          ("To the best of " ++ d.possessive ++ " knowledge, the will:")]
      ++ Compose.enumeration style executionRecitals 1
      ++ [Compose.numbered style "7." "As to the condition of the will:",
        Compose.passage style alterations m alterationOptions,
        Compose.numbered style "8." "As to documents referred to in the will:",
        Compose.passage style referencedDocuments m (referencedOptions will),
        Compose.numbered style "9."
          (d.pronoun ++ " will administer the estate according to law and will prepare an "
            ++ "accounting as to how the estate was administered."),
        Form.affidavitClose style d]

/-- What to attach to the certificate of the exhibit. -/
def attachment (m : EstateModel) : String :=
  if m.willExists then "[Attach a copy of the will and any codicils]"
  else "[Attach a copy of the document believed to be the will]"

/-- The exhibit of the affidavit with a number. -/
def exhibit (style : StyleProfile) (m : EstateModel) (number : Nat) (d : Deponents) :
    Section where
  id := Form.numberedId "exhibit_a" number
  heading := none
  blocks := Form.exhibitCertificate style "A" (Form.blankOr 30 d.names)
    ++ [Compose.paragraph style (attachment m) { italic := true, align := .center }]

/-- An affidavit and its exhibit. -/
def sworn (style : StyleProfile) (m : EstateModel) (index : Nat) (d : Deponents) :
    List Section :=
  [affidavit style m (index + 1) d, exhibit style m (index + 1) d]

/-- The affidavits of an estate. -/
def document (style : StyleProfile) (m : EstateModel) : DocumentContent where
  kind := .shortAffidavit
  title := title
  style := style
  sections := ((Deponents.groups m).mapIdx (sworn style m)).flatten

end EstateFiling.ShortAffidavit
