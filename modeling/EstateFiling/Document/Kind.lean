import EstateFiling.Json.Decoding
import EstateFiling.Text.Ascii
import EstateFiling.Text.Blank

/-!
# Kinds of documents

The eight documents that can be written: six numbered court forms and two
letters.  A kind is asked for by its identifier or, for a form, by its number.
-/

namespace EstateFiling

/-- A kind of document. -/
inductive DocumentKind where
  /-- The notice of the proposed application. -/
  | notice
  /-- The submission for an estate grant. -/
  | submission
  /-- The short affidavit of an applicant under a will. -/
  | shortAffidavit
  /-- The affidavit of an applicant without a will. -/
  | administrationAffidavit
  /-- The affidavit of delivery of the notice. -/
  | deliveryAffidavit
  /-- The affidavit of assets and liabilities. -/
  | assetsAffidavit
  /-- The letter that goes with the application. -/
  | registryCoverLetter
  /-- The letter that lists the steps of the filing. -/
  | filingChecklistLetter
deriving DecidableEq, Repr, Inhabited

/-- A kind that does not exist was asked for. -/
structure UnknownDocumentKind where
  /-- The text as it was given. -/
  raw : String
deriving DecidableEq, Repr

/-- The wording of the error. -/
def UnknownDocumentKind.message (e : UnknownDocumentKind) : String :=
  "unknown document kind '" ++ e.raw ++ "'"

namespace DocumentKind

/-- Every kind, in the usual order. -/
def all : List DocumentKind :=
  [.notice, .submission, .shortAffidavit, .administrationAffidavit, .deliveryAffidavit,
    .assetsAffidavit, .registryCoverLetter, .filingChecklistLetter]

/-- The identifier of a kind. -/
def id : DocumentKind → String
  | .notice => "p1-notice"
  | .submission => "p2-submission"
  | .shortAffidavit => "p3-affidavit"
  | .administrationAffidavit => "p5-affidavit"
  | .deliveryAffidavit => "p9-delivery-affidavit"
  | .assetsAffidavit => "p10-assets-affidavit"
  | .registryCoverLetter => "registry-cover-letter"
  | .filingChecklistLetter => "filing-checklist-letter"

/-- The number of a court form; letters have none. -/
def formNumber? : DocumentKind → Option String
  | .notice => some "P1"
  | .submission => some "P2"
  | .shortAffidavit => some "P3"
  | .administrationAffidavit => some "P5"
  | .deliveryAffidavit => some "P9"
  | .assetsAffidavit => some "P10"
  | .registryCoverLetter | .filingChecklistLetter => none

/-- The title of a kind in a list. -/
def label : DocumentKind → String
  | .notice => "Notice of Proposed Application"
  | .submission => "Submission for Estate Grant"
  | .shortAffidavit =>
      "Affidavit of Applicant for Grant of Probate or Grant of Administration with Will Annexed"
        ++ " (Short Form)"
  | .administrationAffidavit =>
      "Affidavit of Applicant for Grant of Administration without Will Annexed"
  | .deliveryAffidavit => "Affidavit of Delivery"
  | .assetsAffidavit => "Affidavit of Assets and Liabilities for Domiciled Estate Grant"
  | .registryCoverLetter => "Cover Letter to the Probate Registry"
  | .filingChecklistLetter => "Filing Checklist Letter"

/-- Reads a kind: its identifier or form number, trimmed, in any case, with
underscores for hyphens. -/
def parse (raw : String) : Except UnknownDocumentKind DocumentKind :=
  match Text.replaceChars (· == '_') '-' (Text.lower (Text.trim raw)) with
  | "p1" | "p1-notice" => .ok .notice
  | "p2" | "p2-submission" => .ok .submission
  | "p3" | "p3-affidavit" => .ok .shortAffidavit
  | "p5" | "p5-affidavit" => .ok .administrationAffidavit
  | "p9" | "p9-delivery-affidavit" => .ok .deliveryAffidavit
  | "p10" | "p10-assets-affidavit" => .ok .assetsAffidavit
  | "registry-cover-letter" => .ok .registryCoverLetter
  | "filing-checklist-letter" => .ok .filingChecklistLetter
  | _ => .error ⟨raw⟩

/-- A kind as data. -/
def toJson (k : DocumentKind) : Json := .string k.id

/-- Decodes a kind. -/
def decode : Json.Decoder DocumentKind := Json.decodeEnum all id

end DocumentKind

end EstateFiling
