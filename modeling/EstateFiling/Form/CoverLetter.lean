import EstateFiling.Form.Letter

/-!
# Cover letter to the registry

The letter that goes with the application and lists what is enclosed.
-/

namespace EstateFiling.CoverLetter

/-- The enclosed affidavits of the applicants. -/
def affidavitsEnclosed (m : EstateModel) : String :=
  let count := (Deponents.groups m).length
  let form := Form.applicantAffidavit m.grantType
  if 1 < count then toString count ++ " affidavits of applicant (Form " ++ form ++ ")"
  else "Affidavit of applicant (Form " ++ form ++ ")"

/-- What is enclosed of the will. -/
def willEnclosed (m : EstateModel) : String :=
  if m.will.any Will.originalAvailable then "Originally signed will and any codicils"
  else "Copy of the will and any codicils"

/-- What is enclosed, in the order of filing. -/
def enclosures (m : EstateModel) : List String :=
  ["Submission for estate grant (Form P2)", affidavitsEnclosed m]
    ++ (if !m.deliveries.isEmpty || !m.filing.deliveryWaived then
        ["Affidavit of delivery (Form P9)"]
      else [])
    ++ (if m.filing.assetsAffidavitSubmitted then
        ["Affidavit of assets and liabilities (Form P10)"]
      else [])
    ++ (if m.willExists then [willEnclosed m] else [])
    ++ (if m.filing.willsSearchCertificate then ["Certificate of wills search"] else [])
    ++ (if m.foreignGrant.isSome then ["Certified copy of the foreign grant"] else [])
    ++ (if 0 < m.filing.certifiedCopies then
        ["Fee for " ++ toString m.filing.certifiedCopies.toNat
          ++ " certified copies of the grant"]
      else [])

/-- An enclosure with its marker. -/
def enclosureRow (index : Nat) (enclosure : String) : TableRow :=
  ⟨[Filler.letterMarker index, enclosure], false⟩

/-- Where to send letters about the application: the address for service, or the
first applicant's. -/
def correspondence (m : EstateModel) : String :=
  match m.filing.addressForService, m.applicants with
  | some a, _ => Filler.addressOrDots a 40
  | none, a :: _ => Filler.addressOrDots a.address 40
  | none, [] => Filler.dots 40

/-- The body of the letter. -/
def body (style : StyleProfile) (m : EstateModel) : Section where
  id := "body"
  heading := none
  blocks :=
    [Compose.text style
        ("Please find enclosed an application for a " ++ m.grantType.label
          ++ " in the estate of " ++ Form.deceasedName m
          ++ ". The following documents are enclosed:"),
      Compose.table style "enclosures" ["", "Enclosure"] ((enclosures m).mapIdx enclosureRow),
      Compose.text style
        ("Please direct any correspondence about this application to " ++ correspondence m
          ++ ".")]

/-- The cover letter of an estate. -/
def document (style : StyleProfile) (m : EstateModel) : DocumentContent where
  kind := .registryCoverLetter
  title := "COVER LETTER TO PROBATE REGISTRY"
  style := style
  sections :=
    [Letter.head style m
        ("To: Supreme Court of British Columbia, Probate Registry, "
          ++ Filler.orDots m.filing.registry 20),
      body style m, Letter.closing style m]

end EstateFiling.CoverLetter
