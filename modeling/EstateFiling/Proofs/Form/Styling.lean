import EstateFiling.Form.Document
import EstateFiling.Proofs.Document.Styling

/-!
# Styles of the forms

Each form is written from a template: in every style it is the template in that style.
So the style of a document sets its sizes, indentations and spaces and nothing else
(`EstateModel.style_sets_sizes_only`).
-/

namespace EstateFiling

variable (s : StyleProfile) (m : EstateModel)

/-! ## What the forms share -/

namespace Form

@[simp] theorem styled_reference (form rule : String) :
    (reference .marks form rule).styled s = reference s form rule :=
  Compose.styled_small s _ (by decide)

@[simp] theorem styled_courtCaption :
    (courtCaption .marks m).map (Block.styled s) = courtCaption s m := by
  simp [courtCaption]

@[simp] theorem styled_affidavitOpening (form title : String) (d : Deponents) :
    (affidavitOpening .marks m form title d).map (Block.styled s) =
      affidavitOpening s m form title d := by
  simp [affidavitOpening]

@[simp] theorem styled_affidavitClose (d : Deponents) :
    (affidavitClose .marks d).styled s = affidavitClose s d :=
  Compose.styled_jurat s d.place none d.names

@[simp] theorem styled_exhibitCertificate (letter deponents : String) :
    (exhibitCertificate .marks letter deponents).map (Block.styled s) =
      exhibitCertificate s letter deponents := by
  simp [exhibitCertificate]

end Form

@[simp] theorem Letter.styled_head (salutation : String) :
    (head .marks m salutation).styled s = head s m salutation := by
  simp [head]

@[simp] theorem Letter.styled_closing : (closing .marks m).styled s = closing s m := by
  simp [closing]

namespace Notice

theorem styled_header : (header .marks m).styled s = header s m := by
  simp [header]

theorem styled_application : (application .marks m).styled s = application s m := by
  simp [application]

theorem styled_applicantBlocks (index : Nat) (a : Applicant) :
    (applicantBlocks .marks index a).map (Block.styled s) = applicantBlocks s index a := by
  simp [applicantBlocks]

theorem styled_applicants : (applicants .marks m).styled s = applicants s m := by
  have blocks := map_styled_flatten_mapIdx (styled_applicantBlocks s)
    (Deponents.together m).membersOrBlank
  simp [applicants, blocks, -List.map_flatten]

theorem styled_notices : (notices .marks m).styled s = notices s m := by
  simp [notices, -String.reduceAppend]

theorem styled_document : (document .marks m).styled s = document s m := by
  have signatures : (signatures .marks m).styled s = signatures s m := by
    simp [signatures]
  simp [document, styled_header, styled_application, styled_applicants, styled_notices, signatures]

end Notice

namespace Submission

theorem styled_header : (header .marks m).styled s = header s m := by
  simp [header]

theorem styled_deceasedPart : (deceasedPart .marks m).styled s = deceasedPart s m := by
  simp [deceasedPart, -String.reduceAppend]

theorem styled_contactEntry (index : Nat) (a : Applicant) :
    (contactEntry .marks index a).styled s = contactEntry s index a :=
  Compose.styled_numbered s _ _

theorem styled_applicantPart : (applicantPart .marks m).styled s = applicantPart s m := by
  have entries := map_styled_mapIdx (styled_contactEntry s) (Deponents.together m).membersOrBlank
  simp [applicantPart, entries, -String.reduceAppend]

theorem styled_documentsPart : (documentsPart .marks m).styled s = documentsPart s m := by
  simp [documentsPart, -String.reduceAppend]

theorem styled_scheduleList (index : Nat) (list : String × List String) :
    (scheduleList .marks index list).map (Block.styled s) = scheduleList s index list := by
  simp [scheduleList]

theorem styled_schedulePart : (schedulePart .marks m).styled s = schedulePart s m := by
  have lists := map_styled_flatten_mapIdx (styled_scheduleList s) (scheduleLists m)
  simp only [schedulePart, Section.styled_mk, lists]

theorem styled_document : (document .marks m).styled s = document s m := by
  have signatures : (signatures .marks m).styled s = signatures s m := by
    simp [signatures]
  unfold document
  split <;>
    simp [styled_header, styled_deceasedPart, styled_applicantPart, styled_documentsPart,
      styled_schedulePart, signatures]

end Submission

namespace ShortAffidavit

theorem styled_standingPassage (d : Deponents) (offset : Nat) (a : Applicant) :
    (standingPassage .marks d offset a).styled s = standingPassage s d offset a :=
  Compose.styled_choice s _ _ _ _

theorem styled_affidavit (number : Nat) (d : Deponents) :
    (affidavit .marks m number d).styled s = affidavit s m number d := by
  have standings := map_styled_mapIdx (styled_standingPassage s d) d.membersOrBlank
  simp [affidavit, standings, -String.reduceAppend]

theorem styled_exhibit (number : Nat) (d : Deponents) :
    (exhibit .marks m number d).styled s = exhibit s m number d := by
  simp [exhibit]

theorem styled_sworn (index : Nat) (d : Deponents) :
    (sworn .marks m index d).map (Section.styled s) = sworn s m index d := by
  simp [sworn, styled_affidavit, styled_exhibit]

theorem styled_document : (document .marks m).styled s = document s m := by
  simp [document, map_mapIdx, styled_sworn]

end ShortAffidavit

namespace AdministrationAffidavit

theorem styled_priorityPassage (d : Deponents) (offset : Nat) (a : Applicant) :
    (priorityPassage .marks m d offset a).styled s = priorityPassage s m d offset a :=
  Compose.styled_choice s _ _ _ _

theorem styled_affidavit (number : Nat) (d : Deponents) :
    (affidavit .marks m number d).styled s = affidavit s m number d := by
  have priorities := map_styled_mapIdx (styled_priorityPassage s m d) d.membersOrBlank
  simp [affidavit, priorities, -String.reduceAppend]

theorem styled_document : (document .marks m).styled s = document s m := by
  simp [document, map_mapIdx, styled_affidavit]

end AdministrationAffidavit

namespace DeliveryAffidavit

theorem styled_methodBlocks (method : DeliveryMethod) :
    (methodBlocks .marks m method).map (Block.styled s) = methodBlocks s m method := by
  simp [methodBlocks, acknowledgement]

theorem styled_affidavit : (affidavit .marks m).styled s = affidavit s m := by
  simp [affidavit, List.map_flatMap, styled_methodBlocks, -String.reduceAppend]

theorem styled_document : (document .marks m).styled s = document s m := by
  simp [document, styled_affidavit]

end DeliveryAffidavit

namespace AssetsAffidavit

theorem styled_affidavit : (affidavit .marks m).styled s = affidavit s m := by
  simp [affidavit, -String.reduceAppend]

theorem styled_securedTable (category : AssetCategory) (assets : List SecuredAsset)
    (total secured : Money) :
    (securedTable .marks category assets total secured).styled s =
      securedTable s category assets total secured := rfl

theorem styled_valueTable (category : AssetCategory) (assets : List Asset) (total : Money) :
    (valueTable .marks category assets total).styled s = valueTable s category assets total := rfl

theorem styled_exhibitA : (exhibitA .marks m).styled s = exhibitA s m := by
  simp [exhibitA, styled_securedTable, styled_valueTable]

theorem styled_exhibitB : (exhibitB .marks m).styled s = exhibitB s m := by
  simp [exhibitB, styled_valueTable]

theorem styled_document : (document .marks m).styled s = document s m := by
  unfold document
  split <;> simp [styled_affidavit, styled_exhibitA, styled_exhibitB]

end AssetsAffidavit

theorem CoverLetter.styled_document : (document .marks m).styled s = document s m := by
  have body : (body .marks m).styled s = body s m := by
    simp [body]
  simp [document, body]

namespace ChecklistLetter

theorem styled_signing : (signing .marks m).styled s = signing s m := by
  simp [signing, -String.reduceAppend]

theorem styled_delivery : (delivery .marks m).styled s = delivery s m := by
  simp [delivery]

theorem styled_creditors : (creditors .marks m).styled s = creditors s m := by
  simp [creditors]

theorem styled_copies : (copies .marks m).styled s = copies s m := by
  simp [copies]

theorem styled_document : (document .marks m).styled s = document s m := by
  simp [document, styled_signing, styled_delivery, styled_creditors, styled_copies]

end ChecklistLetter

/-! ## Every form -/

/-- Every form is its template in the style. -/
theorem EstateModel.styled_document (kind : DocumentKind) :
    (m.document .marks kind).styled s = m.document s kind := by
  cases kind with
  | notice => exact Notice.styled_document s m
  | submission => exact Submission.styled_document s m
  | shortAffidavit => exact ShortAffidavit.styled_document s m
  | administrationAffidavit => exact AdministrationAffidavit.styled_document s m
  | deliveryAffidavit => exact DeliveryAffidavit.styled_document s m
  | assetsAffidavit => exact AssetsAffidavit.styled_document s m
  | registryCoverLetter => exact CoverLetter.styled_document s m
  | filingChecklistLetter => exact ChecklistLetter.styled_document s m

/-- The style of a document sets its sizes, indentations and spaces, and never changes its
substance. -/
theorem EstateModel.style_sets_sizes_only (m : EstateModel) (kind : DocumentKind) :
    SetsSizesOnly fun s => m.document s kind :=
  setsSizesOnly_of_template fun s => m.styled_document s kind

end EstateFiling
