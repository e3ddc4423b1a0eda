import EstateFiling.Proofs.Form.CheckedBoxes
import EstateFiling.Proofs.Text.Trimming
import Mathlib.Tactic.Simps.Basic

/-!
# Texts in print

Each text of an estate that is entered as one value is trimmed where it is printed, and a
blank one is left to be filled in.  So a document does not change if these texts are trimmed
beforehand (`EstateModel.trimmed`).

One fact of an estate is about such a text without being printed with it: whether the
deceased was a member of a treaty first nation.  The submission tells it, and so does the
notice, unless the deceased was a Nisga'a citizen.  These documents change with the fact, and
the others do not (`EstateModel.document_trimmed_iff`).
-/

namespace EstateFiling

/-! ## Trimmed texts -/

@[simp] theorem Filler.orDots_trim (s : String) (width : Nat) :
    orDots (Text.trim s) width = orDots s width := by
  rw [orDots, orDots, Text.trim_trim]

/-- The name with its parts trimmed. -/
@[simps] def PersonName.trimmed (n : PersonName) : PersonName :=
  ⟨Text.trim n.first, Text.trim n.middle, Text.trim n.last⟩

@[simp] theorem PersonName.display_trimmed (n : PersonName) : n.trimmed.display = n.display :=
  congrArg (Text.join " ") (Text.trimmedNonBlank_map_trim [n.first, n.middle, n.last])

/-- The deceased with trimmed texts, as a member of a treaty first nation or not. -/
@[simps] def Deceased.trimmed (d : Deceased) (member : Bool) : Deceased :=
  { d with
    name := d.name.trimmed
    placeOfDeath := Text.trim d.placeOfDeath
    indigenous :=
      { d.indigenous with
        treatyFirstNationMember := member
        treatyFirstNation := Text.trim d.indigenous.treatyFirstNation } }

/-- The will with trimmed texts. -/
@[simps] def Will.trimmed (w : Will) : Will := { w with signedAt := Text.trim w.signedAt }

/-- The family with trimmed texts. -/
@[simps] def Family.trimmed (f : Family) : Family :=
  { f with spouse.name := Text.trim f.spouse.name }

/-- The filing with trimmed texts. -/
@[simps] def Filing.trimmed (f : Filing) : Filing :=
  { f with
    registry := Text.trim f.registry
    serviceEmail := Text.trim f.serviceEmail
    servicePhone := Text.trim f.servicePhone }

namespace EstateModel

/-- The estate with trimmed texts, and the deceased as a member of a treaty first nation or
not. -/
@[simps] def trimmed (m : EstateModel) (member : Bool) : EstateModel :=
  { m with
    deceased := m.deceased.trimmed member
    will := m.will.map Will.trimmed
    family := m.family.trimmed
    filing := m.filing.trimmed }

variable (m : EstateModel) (member : Bool)

@[simp] theorem willExists_trimmed : (m.trimmed member).willExists = m.willExists := by
  unfold willExists existingWill?
  rw [trimmed_grantType, trimmed_will, Option.filter_map]
  split
  · exact Option.isSome_map
  · rfl

@[simp] theorem applicantNames_trimmed : (m.trimmed member).applicantNames = m.applicantNames :=
  rfl

@[simp] theorem earliestSubmission?_trimmed :
    (m.trimmed member).earliestSubmission? = m.earliestSubmission? := rfl

end EstateModel

/-! ## What the forms share -/

variable (style : StyleProfile) (m : EstateModel) (member : Bool)

namespace Deponents

@[simp] theorem together_trimmed : together (m.trimmed member) = together m := rfl

@[simp] theorem groups_trimmed : groups (m.trimmed member) = groups m := rfl

end Deponents

namespace Form

@[simp] theorem deceasedName_trimmed : deceasedName (m.trimmed member) = deceasedName m := by
  simp [deceasedName]

@[simp] theorem courtCaption_trimmed :
    courtCaption style (m.trimmed member) = courtCaption style m := by
  simp [courtCaption]

@[simp] theorem affidavitOpening_trimmed (form title : String) (d : Deponents) :
    affidavitOpening style (m.trimmed member) form title d
      = affidavitOpening style m form title d := by
  simp [affidavitOpening]

@[simp] theorem copyRecipients_trimmed : copyRecipients (m.trimmed member) = copyRecipients m := by
  unfold copyRecipients
  rw [EstateModel.trimmed_will]
  cases m.will <;> rfl

end Form

@[simp] theorem Letter.head_trimmed (salutation : String) :
    head style (m.trimmed member) salutation = head style m salutation := by
  simp [head]

@[simp] theorem Letter.closing_trimmed : closing style (m.trimmed member) = closing style m := rfl

/-! ## Passages -/

/-- No clause of the table is about a text or a treaty first nation. -/
def ClauseTable.IgnoresTexts (t : ClauseTable EstateModel) : Prop :=
  ∀ c ∈ t.clauses, ∀ (m : EstateModel) (member : Bool), c.applies (m.trimmed member) = c.applies m

@[simp] theorem ClauseTable.IgnoresTexts.select_trimmed {t : ClauseTable EstateModel}
    (h : t.IgnoresTexts) : t.select (m.trimmed member) = t.select m :=
  select_congr fun c hc => h c hc m member

@[simp] theorem Compose.passage_trimmed {t : ClauseTable EstateModel}
    (same : t.select (m.trimmed member) = t.select m) (options : List (String × String))
    (caption : Option String) :
    passage style t (m.trimmed member) options caption = passage style t m options caption :=
  congrArg (choice style t.group caption · options) same

namespace Notice

theorem ignoresTexts : ∀ t ∈ [willBasis, electronicWillCopy, serviceAddress], t.IgnoresTexts := by
  simp [ClauseTable.IgnoresTexts, willBasis, electronicWillCopy, serviceAddress, Option.any_map]

/-- One passage of the notice tells the membership. -/
theorem document_trimmed
    (same : indigenousNotice.select (m.trimmed member) = indigenousNotice.select m) :
    document style (m.trimmed member) = document style m := by
  have ignores := ignoresTexts
  simp only [List.forall_mem_cons] at ignores
  have header : header style (m.trimmed member) = header style m := by simp [header]
  have signed : (m.will.map Will.trimmed).bind Will.signedOn = m.will.bind Will.signedOn :=
    Option.bind_map
  have application : application style (m.trimmed member) = application style m := by
    simp [application, ignores, basisOptions, electronicWillOptions, signed,
      -String.reduceAppend]
  have applicants : applicants style (m.trimmed member) = applicants style m := by
    simp [applicants, ignores, serviceOptions, serviceText, -String.reduceAppend]
  have notices : notices style (m.trimmed member) = notices style m := by
    simp [notices, same, indigenousOptions, -String.reduceAppend]
  simp [document, header, application, applicants, notices, signatures]

end Notice

namespace Submission

/-- The passages that are not about a treaty first nation. -/
theorem ignoresTexts :
    ∀ t ∈ [grantType, nisgaa, domicile, certifiedCopies, affidavitMode, deliveryAffidavit,
      willsSearch, willDocuments, assetsAffidavit, translation, renunciations, foreignGrant],
      t.IgnoresTexts := by
  simp [ClauseTable.IgnoresTexts, grantType, nisgaa, domicile, certifiedCopies, affidavitMode,
    deliveryAffidavit, willsSearch, willDocuments, assetsAffidavit, translation, renunciations,
    foreignGrant, EstateModel.isSoleApplicant, EstateModel.hasRenunciations, Option.any_map]

/-- One passage of the submission tells the membership. -/
theorem document_trimmed
    (same : treatyFirstNation.select (m.trimmed member) = treatyFirstNation.select m) :
    document style (m.trimmed member) = document style m := by
  have ignores := ignoresTexts
  simp only [List.forall_mem_cons] at ignores
  have header : header style (m.trimmed member) = header style m := by
    simp [header, -String.reduceAppend]
  have deceased : deceasedPart style (m.trimmed member) = deceasedPart style m := by
    simp [deceasedPart, ignores, same, treatyOptions, -String.reduceAppend]
  have applicants : applicantPart style (m.trimmed member) = applicantPart style m := by
    simp [applicantPart, ignores, serviceText, copiesOptions, -String.reduceAppend]
  have documents : documentsPart style (m.trimmed member) = documentsPart style m := by
    simp [documentsPart, ignores, modeOptions, foreignOptions, -String.reduceAppend]
  have schedule : schedulePart style (m.trimmed member) = schedulePart style m := by
    simp [schedulePart, scheduleLists, spouseEntries]
  simp [document, header, deceased, applicants, documents, schedule, signatures]

end Submission

namespace ShortAffidavit

theorem ignoresTexts : ∀ t ∈ passages, t.IgnoresTexts := by
  simp [ClauseTable.IgnoresTexts, passages, willRecital, codicils, otherExecutors, alterations,
    referencedDocuments, Option.any_map]

theorem getD_map_trimmed (w : Option Will) :
    (w.map Will.trimmed).getD {} = (w.getD {}).trimmed := by
  cases w <;> rfl

theorem document_trimmed : document style (m.trimmed member) = document style m := by
  have ignores := ignoresTexts
  simp only [passages, List.forall_mem_cons] at ignores
  have affidavit : affidavit style (m.trimmed member) = affidavit style m := by
    funext number d
    simp [affidavit, ignores, getD_map_trimmed, recitalOptions, codicilOptions,
      referencedOptions, -String.reduceAppend]
  have exhibit : exhibit style (m.trimmed member) = exhibit style m := by
    funext number d
    simp [exhibit, attachment]
  have sworn : sworn style (m.trimmed member) = sworn style m := by
    funext index d
    simp [sworn, affidavit, exhibit]
  simp [document, sworn]

end ShortAffidavit

namespace AdministrationAffidavit

theorem ignoresTexts : ∀ t ∈ passages, t.IgnoresTexts := by
  simp [ClauseTable.IgnoresTexts, passages, spouseStatus, children, intestateSuccessors]

theorem document_trimmed : document style (m.trimmed member) = document style m := by
  have ignores := ignoresTexts
  simp only [passages, List.forall_mem_cons] at ignores
  have priority : priorityPassage style (m.trimmed member) = priorityPassage style m := by
    funext d offset a
    simp [priorityPassage, PriorityFacts.of, priorityOptions, -String.reduceAppend]
  have affidavit : affidavit style (m.trimmed member) = affidavit style m := by
    funext number d
    simp [affidavit, ignores, priority, spouseOptions, -String.reduceAppend]
  simp [document, affidavit]

end AdministrationAffidavit

namespace DeliveryAffidavit

theorem ignoresTexts : ∀ t ∈ passages, t.IgnoresTexts := by
  simp [ClauseTable.IgnoresTexts, passages, willCopy, electronicWillDemand, Option.any_map]

theorem document_trimmed : document style (m.trimmed member) = document style m := by
  have ignores := ignoresTexts
  simp only [passages, List.forall_mem_cons] at ignores
  have methods : methodBlocks style (m.trimmed member) = methodBlocks style m := rfl
  simp [document, affidavit, ignores, methods, demandOptions, -String.reduceAppend]

end DeliveryAffidavit

namespace AssetsAffidavit

theorem ignoresTexts : ∀ t ∈ passages, t.IgnoresTexts := by
  simp [ClauseTable.IgnoresTexts, passages, domicile, outsideProperty]

theorem document_trimmed : document style (m.trimmed member) = document style m := by
  have ignores := ignoresTexts
  simp only [passages, List.forall_mem_cons] at ignores
  have exhibitA : exhibitA style (m.trimmed member) = exhibitA style m := rfl
  have exhibitB : exhibitB style (m.trimmed member) = exhibitB style m := rfl
  simp [document, affidavit, exhibitA, exhibitB, ignores, domicileOptions, -String.reduceAppend]

end AssetsAffidavit

theorem CoverLetter.document_trimmed : document style (m.trimmed member) = document style m := by
  simp [document, body, enclosures, affidavitsEnclosed, willEnclosed, correspondence,
    Option.any_map, -String.reduceAppend]

namespace ChecklistLetter

theorem ignoresTexts : ∀ t ∈ passages, t.IgnoresTexts := by
  simp [ClauseTable.IgnoresTexts, passages, deliveryStep, earliestSubmission, creditorNotice]

theorem document_trimmed : document style (m.trimmed member) = document style m := by
  have ignores := ignoresTexts
  simp only [passages, List.forall_mem_cons] at ignores
  have signing : signing style (m.trimmed member) = signing style m := rfl
  simp [document, signing, delivery, creditors, copies, ignores, deliveryOptions,
    submissionOptions, -String.reduceAppend]

end ChecklistLetter

/-! ## Membership of a treaty first nation -/

/-- A document of the kind tells whether the deceased was a member of a treaty first
nation. -/
def EstateModel.TellsMembership (m : EstateModel) (kind : DocumentKind) : Prop :=
  kind = .submission ∨ kind = .notice ∧ m.deceased.indigenous.nisgaaCitizen = false

theorem Submission.checks_member_iff :
    (m.document style .submission).Checks "treaty_first_nation" "member" ↔
      m.deceased.indigenous.treatyFirstNationMember = true := by
  refine (m.checks_clause_iff style (t := treatyFirstNation)
    (by simp [DocumentKind.passages, passages]) (by decide) _).trans ?_
  simp [ClauseTable.Settles, treatyFirstNation]

theorem Notice.checks_treatyFirstNation_iff :
    (m.document style .notice).Checks "indigenous_notice" "treaty_first_nation" ↔
      m.deceased.indigenous.nisgaaCitizen = false
        ∧ m.deceased.indigenous.treatyFirstNationMember = true := by
  refine (m.checks_clause_iff style (t := indigenousNotice)
    (by simp [DocumentKind.passages, passages]) (by decide) _).trans ?_
  simp [ClauseTable.Settles, indigenousNotice]

namespace EstateModel

variable {m member} {kind : DocumentKind}

theorem document_trimmed
    (same : m.TellsMembership kind → member = m.deceased.indigenous.treatyFirstNationMember) :
    (m.trimmed member).document style kind = m.document style kind := by
  cases kind with
  | notice =>
    refine Notice.document_trimmed style m member (ClauseTable.select_congr ?_)
    -- The clause of the Nisga'a comes first, and the other one is not for their citizens.
    cases nisgaa : m.deceased.indigenous.nisgaaCitizen with
    | true => simp [Notice.indigenousNotice, nisgaa]
    | false => simp [Notice.indigenousNotice, nisgaa, same (Or.inr ⟨rfl, nisgaa⟩)]
  | submission =>
    refine Submission.document_trimmed style m member (ClauseTable.select_congr ?_)
    simp [Submission.treatyFirstNation, same (Or.inl rfl)]
  | shortAffidavit => exact ShortAffidavit.document_trimmed style m member
  | administrationAffidavit => exact AdministrationAffidavit.document_trimmed style m member
  | deliveryAffidavit => exact DeliveryAffidavit.document_trimmed style m member
  | assetsAffidavit => exact AssetsAffidavit.document_trimmed style m member
  | registryCoverLetter => exact CoverLetter.document_trimmed style m member
  | filingChecklistLetter => exact ChecklistLetter.document_trimmed style m member

/-- A document that tells the membership is another for a member than for others. -/
theorem document_trimmed_iff :
    (m.trimmed member).document style kind = m.document style kind ↔
      (m.TellsMembership kind → member = m.deceased.indigenous.treatyFirstNationMember) := by
  refine ⟨fun same tells => Bool.eq_iff_iff.mpr ?_, document_trimmed style⟩
  rcases tells with rfl | ⟨rfl, nisgaa⟩
  · rw [← Submission.checks_member_iff style m, ← same, Submission.checks_member_iff]
    rfl
  · have member := Notice.checks_treatyFirstNation_iff style m
    rw [← same, Notice.checks_treatyFirstNation_iff] at member
    simpa [nisgaa] using member

end EstateModel

end EstateFiling
