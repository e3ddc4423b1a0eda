import EstateFiling.Document.Compose
import EstateFiling.Estate.Model
import EstateFiling.Text.Upper

/-!
# Deponents and captions

What the forms share.  The applicants swear their affidavits in groups: all
together when the affidavit is joint, and each alone otherwise; without
applicants there is one blank deponent.  `Deponents` words the affidavit for a
group.  Every court form carries the same caption.
-/

namespace EstateFiling

/-! ## Groups of deponents -/

/-- The applicants who swear one affidavit. -/
structure Deponents where
  /-- The position of the first of them among all applicants, from 1. -/
  firstIndex : Nat
  /-- The applicants. -/
  members : List Applicant

namespace Deponents

/-- All applicants in one group. -/
def together (m : EstateModel) : Deponents := ⟨1, m.applicants⟩

/-- The groups in which the applicants swear. -/
def groups (m : EstateModel) : List Deponents :=
  if m.applicants.isEmpty || m.filing.jointAffidavit then [together m]
  else m.applicants.mapIdx (fun i applicant => ⟨i + 1, [applicant]⟩)

/-- The names of the members, blank where a member has none. -/
def names (d : Deponents) : List String := d.members.map Applicant.displayName

/-- The members, or one blank applicant when there is none. -/
def membersOrBlank (d : Deponents) : List Applicant :=
  if d.members.isEmpty then [{}] else d.members

/-- Whether there is more than one member. -/
def isJoint (d : Deponents) : Bool := 1 < d.members.length

/-- Who speaks. -/
def pronoun (d : Deponents) : String := if d.isJoint then "We" else "I"

/-- The verb that goes with the pronoun. -/
def be (d : Deponents) : String := if d.isJoint then "are" else "am"

/-- The possessive that goes with the pronoun. -/
def possessive (d : Deponents) : String := if d.isJoint then "our" else "my"

/-- What the members are. -/
def role (d : Deponents) : String := if d.isJoint then "the applicants" else "an applicant"

/-- The city of the first member. -/
def place (d : Deponents) : String :=
  match d.members with
  | a :: _ => Text.trim a.address.city
  | [] => ""

/-- A member's name and address. -/
def personAndAddress (a : Applicant) : String :=
  Filler.orDots a.displayName 30 ++ ", of " ++ Filler.addressOrDots a.address 40

/-- The words that open an affidavit. -/
def introduction (d : Deponents) : String :=
  d.pronoun ++ ", " ++ Filler.joinList (d.membersOrBlank.map personAndAddress)
    ++ ", SWEAR (OR AFFIRM) THAT:"

end Deponents

/-! ## Captions -/

namespace Form

/-- The name of the deceased. -/
def deceasedName (m : EstateModel) : String := Filler.orDots m.deceased.name.display 30

/-- The caption of a court form. -/
def courtCaption (style : StyleProfile) (m : EstateModel) : List Block :=
  [Compose.paragraph style "IN THE SUPREME COURT OF BRITISH COLUMBIA"
      { bold := true, align := .center },
    Compose.paragraph style
      ("IN THE MATTER OF THE ESTATE OF " ++ Text.upper (deceasedName m) ++ ", DECEASED")
      { align := .center }]

/-- The number of a form and the rule that prescribes it. -/
def reference (style : StyleProfile) (form rule : String) : Block :=
  Compose.small style ("Form " ++ form ++ " (" ++ rule ++ ")") { italic := true }

/-- The number of the applicant's affidavit that a grant calls for. -/
def applicantAffidavit : GrantType → String
  | .probate | .administrationWithWill => "P3"
  | .administrationWithoutWill => "P5"
  | .ancillaryProbate | .ancillaryAdministrationWithWill => "P6"
  | .ancillaryAdministrationWithoutWill => "P7"

/-- The identifier of the passage or section for one of several deponents. -/
def numberedId (group : String) (index : Nat) : String := group ++ "." ++ toString index

/-- Names in a sentence, or a run of dots when there is none. -/
def blankOr (width : Nat) (names : List String) : String :=
  if names.isEmpty then Filler.dots width else Filler.joinList names

/-- The people who received a copy of an electronic will. -/
def copyRecipients (m : EstateModel) : String :=
  blankOr 30 (match m.will with
    | some w => w.electronicDemand.providedTo
    | none => [])

/-- How an affidavit opens: its number, the caption, the title and who swears. -/
def affidavitOpening (style : StyleProfile) (m : EstateModel) (form title : String)
    (d : Deponents) : List Block :=
  [reference style form "Rule 25-3 (2)"] ++ courtCaption style m
    ++ [Compose.title style title, Compose.paragraph style d.introduction { bold := true }]

/-- How an affidavit closes. -/
def affidavitClose (style : StyleProfile) (d : Deponents) : Block :=
  Compose.jurat style d.place none d.names

/-- The page of an exhibit: what it is an exhibit to, and the commissioner's
place to sign. -/
def exhibitCertificate (style : StyleProfile) (letter deponents : String) : List Block :=
  [.pageBreak,
    Compose.paragraph style
      ("This is Exhibit " ++ letter ++ " referred to in the affidavit of " ++ deponents
        ++ " sworn (or affirmed) before me on " ++ Filler.dots 20 ++ ".")
      { align := .center },
    Compose.signature style "" "A commissioner for taking affidavits for British Columbia"]

end Form

end EstateFiling
