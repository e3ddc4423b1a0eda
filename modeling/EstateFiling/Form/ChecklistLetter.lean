import EstateFiling.Estate.NoticePeriod
import EstateFiling.Form.Letter

/-!
# Filing checklist

The letter that tells the applicants what is left to do: sign, deliver, wait,
notify the creditors, and order copies.
-/

namespace EstateFiling.ChecklistLetter

/-! ## Clauses -/

/-- Whether the notice was delivered. -/
def deliveryStep : ClauseTable EstateModel where
  group := "delivery_step"
  fallback := "outstanding"
  clauses :=
    [⟨"waived", fun m => m.filing.deliveryWaived⟩,
      ⟨"complete", fun m => !m.filing.deliveryWaived && !m.deliveries.isEmpty⟩]

/-- Whether the day of the submission is known. -/
def earliestSubmission : ClauseTable EstateModel where
  group := "earliest_submission"
  fallback := "not_scheduled"
  clauses :=
    [⟨"scheduled", fun m => !m.filing.deliveryWaived && m.earliestSubmission?.isSome⟩]

/-- Whether there are creditors. -/
def creditorNotice : ClauseTable EstateModel where
  group := "creditor_notice"
  fallback := "none_known"
  clauses := [⟨"listed", fun m => !m.creditors.isEmpty⟩]

/-! ## Sections -/

/-- What to sign. -/
def signing (style : StyleProfile) (m : EstateModel) : Section where
  id := "signing"
  heading := some "1. Signing the documents"
  blocks :=
    Compose.text style
        ("Sign the submission for estate grant (Form P2). Swear or affirm the affidavit of "
          ++ "applicant (Form " ++ Form.applicantAffidavit m.grantType
          ++ ") before a lawyer, notary public or commissioner for taking affidavits. Do not "
          ++ "sign the affidavit until you are in front of that person.")
      :: (if m.filing.assetsAffidavitSubmitted then
          [Compose.text style
            ("The affidavit of assets and liabilities (Form P10) must be sworn at the same "
              ++ "time. Check each value against your records before you sign.")]
        else [])

/-- The wording of the delivery. -/
def deliveryOptions (m : EstateModel) : List (String × String) :=
  [("complete",
      "The notice of proposed application (Form P1) has been delivered to "
        ++ toString m.deliveries.length
        ++ " person(s). Swear the affidavit of delivery (Form P9) after the last delivery."),
    ("waived", "No person is entitled to notice, so no affidavit of delivery is required."),
    ("outstanding",
      "Deliver the notice of proposed application (Form P1) to every person entitled to "
        ++ "notice, then swear the affidavit of delivery (Form P9).")]

/-- The wording of the day of the submission. -/
def submissionOptions (m : EstateModel) : List (String × String) :=
  [("scheduled",
      "The submission may be filed on or after "
        ++ Filler.dateOrDots m.earliestSubmission? 20 ++ ", which is "
        ++ toString noticePeriodDays ++ " days after the last delivery."),
    ("not_scheduled",
      "The submission may be filed " ++ toString noticePeriodDays
        ++ " days after the last delivery, on or after " ++ Filler.dots 20 ++ ".")]

/-- What is left of the delivery. -/
def delivery (style : StyleProfile) (m : EstateModel) : Section where
  id := "delivery"
  heading := some "2. Delivering the notice"
  blocks :=
    [Compose.passage style deliveryStep m (deliveryOptions m),
      Compose.passage style earliestSubmission m (submissionOptions m)]

/-- The wording of the creditors. -/
def creditorOptions : List (String × String) :=
  [("listed", "Give notice of the application to the following creditors of the estate:"),
    ("none_known", "No creditors of the estate are known. Tell us if any come forward.")]

/-- A creditor's row. -/
def creditorRow (c : Creditor) : TableRow where
  cells :=
    [Filler.orDots c.name 30,
      match c.amount with
      | some amount => amount.currency
      | none => Filler.dots 12]
  emphasis := false

/-- The creditors to notify. -/
def creditors (style : StyleProfile) (m : EstateModel) : Section where
  id := "creditors"
  heading := some "3. Creditors"
  blocks :=
    Compose.passage style creditorNotice m creditorOptions
      :: (if m.creditors.isEmpty then []
        else [Compose.table style "creditors" ["Creditor", "Amount owing"]
          (m.creditors.map creditorRow)])

/-- The wording of the certified copies. -/
def copiesText (count : UInt32) : String :=
  if 0 < count then
    "You have asked for " ++ toString count.toNat
      ++ " certified copies of the grant. Include the registry fee for each copy with the "
      ++ "filing. Banks and land title offices usually need their own copy."
  else
    "You have not asked for certified copies of the grant. Most financial institutions and the "
      ++ "land title office will need one; copies can be ordered later for a fee."

/-- The certified copies. -/
def copies (style : StyleProfile) (m : EstateModel) : Section where
  id := "certified_copies"
  heading := some "4. Certified copies"
  blocks := [Compose.text style (copiesText m.filing.certifiedCopies)]

/-- The checklist of an estate. -/
def document (style : StyleProfile) (m : EstateModel) : DocumentContent where
  kind := .filingChecklistLetter
  title := "FILING CHECKLIST"
  style := style
  sections :=
    [Letter.head style m ("Dear " ++ Form.blankOr 30 m.applicantNames ++ ":"),
      signing style m, delivery style m, creditors style m, copies style m,
      Letter.closing style m]

end EstateFiling.ChecklistLetter
