import EstateFiling.Form.Document
import EstateFiling.Proofs.Document.Blocks
import EstateFiling.Proofs.Form.Deponents

/-!
# The boxes of each form

For every kind of document the exact list of its groups of check boxes, in
order: `Notice.checkboxGroups_document` and its siblings.  What a form claims by
ticking is read off these lists, and no proof about boxes looks at the other
blocks again.

The affidavits of applicants repeat their boxes for each group of deponents.
Each member of a group has a passage of its own, under the member's position
among all applicants (`Deponents.member_position`).
-/

namespace EstateFiling

/-! ## What the forms share -/

namespace Form

variable (style : StyleProfile)

@[simp] theorem group?_reference (form rule : String) :
    (reference style form rule).group? = none := rfl

@[simp] theorem groupsOf_courtCaption (m : EstateModel) :
    groupsOf (courtCaption style m) = [] := rfl

@[simp] theorem groupsOf_affidavitOpening (m : EstateModel) (form title : String)
    (d : Deponents) : groupsOf (affidavitOpening style m form title d) = [] := rfl

@[simp] theorem group?_affidavitClose (d : Deponents) :
    (affidavitClose style d).group? = none := rfl

@[simp] theorem groupsOf_exhibitCertificate (letter deponents : String) :
    groupsOf (exhibitCertificate style letter deponents) = [] := rfl

end Form

/-- A page break between affidavits holds no boxes. -/
@[simp] theorem groupsOf_breakBefore (number : Nat) :
    groupsOf (if 1 < number then [Block.pageBreak] else []) = [] := by
  simp

@[simp] theorem Letter.checkboxGroups_head (style : StyleProfile) (m : EstateModel)
    (salutation : String) : (Letter.head style m salutation).checkboxGroups = [] := rfl

@[simp] theorem Letter.checkboxGroups_closing (style : StyleProfile) (m : EstateModel) :
    (Letter.closing style m).checkboxGroups = [] := by
  simp [Section.checkboxGroups, Letter.closing]

/-! ## Notice -/

namespace Notice

variable (style : StyleProfile) (m : EstateModel)

theorem checkboxGroups_application :
    (application style m).checkboxGroups =
      Compose.passageGroup style willBasis m (basisOptions m)
        :: (if (willBasis.select m).isActive "electronic_will" then
            [Compose.passageGroup style electronicWillCopy m (electronicWillOptions m)]
          else []) := by
  simp [Section.checkboxGroups, application]

theorem checkboxGroups_applicants :
    (applicants style m).checkboxGroups =
      [Compose.passageGroup style serviceAddress m (serviceOptions m)
        (some "Address for service of the applicant(s):")] := by
  have blank : groupsOf ((Deponents.together m).membersOrBlank.mapIdx
      (applicantBlocks style)).flatten = [] := filterMap_flatten_mapIdx_eq_nil (fun _ _ => rfl) _
  simp [Section.checkboxGroups, applicants, blank]

theorem checkboxGroups_notices :
    (notices style m).checkboxGroups =
      [Compose.passageGroup style indigenousNotice m (indigenousOptions m)
        (some "Indigenous status of the deceased:")] := by
  simp only [Section.checkboxGroups, notices, groupsOf_append, groupsOf_ite, groupsOf_cons,
    groupsOf_nil, Compose.group?_numbered, Compose.group?_passage, Option.toList, ite_self,
    List.nil_append, List.append_nil]

/-- The boxes of the notice. -/
theorem checkboxGroups_document :
    (document style m).checkboxGroups =
      (Compose.passageGroup style willBasis m (basisOptions m)
        :: (if (willBasis.select m).isActive "electronic_will" then
            [Compose.passageGroup style electronicWillCopy m (electronicWillOptions m)]
          else []))
      ++ [Compose.passageGroup style serviceAddress m (serviceOptions m)
          (some "Address for service of the applicant(s):"),
        Compose.passageGroup style indigenousNotice m (indigenousOptions m)
          (some "Indigenous status of the deceased:")] := by
  have header : (header style m).checkboxGroups = [] := rfl
  have signatures : (signatures style m).checkboxGroups = [] := by
    simp [Section.checkboxGroups, signatures]
  rw [DocumentContent.checkboxGroups_eq, ← checkboxGroups_application,
    ← List.singleton_append, ← checkboxGroups_applicants, ← checkboxGroups_notices]
  unfold document
  simp only [List.flatMap_cons, List.flatMap_nil, header, signatures, List.nil_append,
    List.append_nil]

end Notice

/-! ## Submission -/

namespace Submission

variable (style : StyleProfile) (m : EstateModel)

theorem checkboxGroups_deceasedPart :
    (deceasedPart style m).checkboxGroups =
      [Compose.passageGroup style grantType m grantOptions,
        Compose.passageGroup style nisgaa m nisgaaOptions,
        Compose.passageGroup style treatyFirstNation m (treatyOptions m),
        Compose.passageGroup style domicile m domicileOptions] := by
  simp [Section.checkboxGroups, deceasedPart]

theorem checkboxGroups_applicantPart :
    (applicantPart style m).checkboxGroups =
      [Compose.passageGroup style certifiedCopies m (copiesOptions m)
        (some "Certified copies of the estate grant:")] := by
  have entries : groupsOf ((Deponents.together m).membersOrBlank.mapIdx (contactEntry style)) =
      [] := filterMap_mapIdx_eq_nil (fun _ _ => rfl) _
  simp [Section.checkboxGroups, applicantPart, entries]

theorem checkboxGroups_documentsPart :
    (documentsPart style m).checkboxGroups =
      [Compose.passageGroup style affidavitMode m (modeOptions m),
        Compose.passageGroup style deliveryAffidavit m deliveryOptions,
        Compose.passageGroup style willsSearch m willsSearchOptions,
        Compose.passageGroup style willDocuments m willOptions,
        Compose.passageGroup style assetsAffidavit m assetsOptions,
        Compose.passageGroup style translation m translationOptions,
        Compose.passageGroup style renunciations m renunciationOptions,
        Compose.passageGroup style foreignGrant m (foreignOptions m)] := by
  simp [Section.checkboxGroups, documentsPart]

theorem checkboxGroups_schedulePart : (schedulePart style m).checkboxGroups = [] := by
  have plain : ∀ i list, groupsOf (scheduleList style i list) = [] := fun _ list =>
    Compose.groupsOf_enumerationOrNone style list.2
  exact filterMap_flatten_mapIdx_eq_nil plain (scheduleLists m)

/-- The boxes of the submission: parts 1 to 3 hold them all. -/
theorem checkboxGroups_document :
    (document style m).checkboxGroups =
      (deceasedPart style m).checkboxGroups ++ (applicantPart style m).checkboxGroups
        ++ (documentsPart style m).checkboxGroups := by
  have header : (header style m).checkboxGroups = [] := rfl
  have schedule : (if m.grantType.impliesWill then [schedulePart style m] else []).flatMap
      Section.checkboxGroups = [] := by
    split
    · simp [checkboxGroups_schedulePart]
    · rfl
  have signatures : (signatures style m).checkboxGroups = [] := by
    simp [Section.checkboxGroups, signatures]
  simp only [DocumentContent.checkboxGroups_eq, document, List.flatMap_append, schedule]
  simp [header, signatures]

end Submission

/-! ## Affidavits of applicants -/

namespace ShortAffidavit

variable (style : StyleProfile) (m : EstateModel)

/-- The boxes about one member's standing. -/
def standingGroup (d : Deponents) (offset : Nat) (a : Applicant) : CheckboxGroup :=
  Compose.choiceGroup style (Form.numberedId standing.group (d.firstIndex + offset))
    (if d.isJoint then some (Filler.orDots a.displayName 30 ++ ":") else none)
    (standing.select a) (standingOptions a)

/-- The boxes about the will. -/
def willGroups (d : Deponents) : List CheckboxGroup :=
  let will := m.will.getD {}
  [Compose.passageGroup style willRecital m (recitalOptions d will),
    Compose.passageGroup style codicils m (codicilOptions d will),
    Compose.passageGroup style otherExecutors m otherExecutorOptions,
    Compose.passageGroup style alterations m alterationOptions,
    Compose.passageGroup style referencedDocuments m (referencedOptions will)]

/-- The boxes of the affidavit of a group of deponents. -/
def affidavitGroups (d : Deponents) : List CheckboxGroup :=
  d.membersOrBlank.mapIdx (standingGroup style d) ++ willGroups style m d

theorem checkboxGroups_affidavit (number : Nat) (d : Deponents) :
    (affidavit style m number d).checkboxGroups = affidavitGroups style m d := by
  have standings := groupsOf_mapIdx
    (f := standingPassage style d) (g := standingGroup style d)
    (fun _ _ => Compose.group?_choice ..) d.membersOrBlank
  simp [Section.checkboxGroups, affidavit, standings, affidavitGroups, willGroups,
    -groupsOf_ite]

theorem checkboxGroups_exhibit (number : Nat) (d : Deponents) :
    (exhibit style m number d).checkboxGroups = [] := rfl

/-- The boxes of the short affidavits, affidavit by affidavit. -/
theorem checkboxGroups_document :
    (document style m).checkboxGroups =
      (Deponents.groups m).flatMap (affidavitGroups style m) := by
  rw [DocumentContent.checkboxGroups_eq]
  unfold document
  rw [List.flatten_eq_flatMap, List.flatMap_assoc]
  refine flatMap_mapIdx (fun i d => ?_) _
  simp [sworn, checkboxGroups_affidavit, checkboxGroups_exhibit]

end ShortAffidavit

namespace AdministrationAffidavit

variable (style : StyleProfile) (m : EstateModel)

/-- The boxes about one member's priority. -/
def priorityGroup (d : Deponents) (offset : Nat) (a : Applicant) : CheckboxGroup :=
  Compose.choiceGroup style (Form.numberedId priority.group (d.firstIndex + offset))
    (some (Filler.orDots a.displayName 30 ++ ":"))
    (priority.select (PriorityFacts.of m a)) (priorityOptions m a)

/-- The boxes about the family. -/
def familyGroups : List CheckboxGroup :=
  [Compose.passageGroup style spouseStatus m (spouseOptions m),
    Compose.passageGroup style children m childrenOptions,
    Compose.passageGroup style intestateSuccessors m successorOptions]

/-- The boxes of the affidavit of a group of deponents. -/
def affidavitGroups (d : Deponents) : List CheckboxGroup :=
  d.membersOrBlank.mapIdx (priorityGroup style m d) ++ familyGroups style m

theorem checkboxGroups_affidavit (number : Nat) (d : Deponents) :
    (affidavit style m number d).checkboxGroups = affidavitGroups style m d := by
  have priorities := groupsOf_mapIdx
    (f := priorityPassage style m d) (g := priorityGroup style m d)
    (fun _ _ => Compose.group?_choice ..) d.membersOrBlank
  simp [Section.checkboxGroups, affidavit, priorities, affidavitGroups, familyGroups,
    -groupsOf_ite]

/-- The boxes of the affidavits, affidavit by affidavit. -/
theorem checkboxGroups_document :
    (document style m).checkboxGroups =
      (Deponents.groups m).flatMap (affidavitGroups style m) := by
  rw [DocumentContent.checkboxGroups_eq]
  exact flatMap_mapIdx (fun i d => checkboxGroups_affidavit style m (i + 1) d) _

end AdministrationAffidavit

/-! ## Affidavit of delivery -/

namespace DeliveryAffidavit

variable (style : StyleProfile) (m : EstateModel)

/-- The box that confirms the receipts. -/
def acknowledgementGroup : CheckboxGroup :=
  Compose.checkboxGroup style "electronic_acknowledged" none
    [("electronic_acknowledged",
      "Each person who received the documents electronically has acknowledged receipt.",
      allElectronicAcknowledged m)]
    2

/-- The boxes of a method. -/
def methodGroups (method : DeliveryMethod) : List CheckboxGroup :=
  Compose.checkboxGroup style (boxId method) none
      [(boxId method, description method, !(m.deliveriesBy method).isEmpty)] 1
    :: (if (m.deliveriesBy method).isEmpty then []
      else if method = .electronic then [acknowledgementGroup style m] else [])

theorem groupsOf_methodBlocks (method : DeliveryMethod) :
    groupsOf (methodBlocks style m method) = methodGroups style m method := by
  simp only [methodBlocks, methodGroups, groupsOf_cons, groupsOf_ite, groupsOf_nil,
    Compose.group?_checkboxes, Compose.group?_table, Option.toList, List.nil_append,
    List.singleton_append, acknowledgement, acknowledgementGroup]

theorem groupsOf_methods (methods : List DeliveryMethod) :
    groupsOf (methods.flatMap (methodBlocks style m)) =
      methods.flatMap (methodGroups style m) := by
  rw [List.flatMap_def, groupsOf_flatten, List.flatMap_map]
  exact congrArg methods.flatMap (funext (groupsOf_methodBlocks style m))

/-- The boxes of the affidavit of delivery: those of the methods, which are
independent of each other, and two passages about the will. -/
theorem checkboxGroups_document :
    (document style m).checkboxGroups =
      DeliveryMethod.all.flatMap (methodGroups style m)
        ++ [Compose.passageGroup style willCopy m willCopyOptions,
          Compose.passageGroup style electronicWillDemand m (demandOptions m)] := by
  simp [DocumentContent.checkboxGroups_eq, document, Section.checkboxGroups, affidavit,
    groupsOf_methods]

end DeliveryAffidavit

/-! ## Affidavit of assets -/

namespace AssetsAffidavit

variable (style : StyleProfile) (m : EstateModel)

theorem checkboxGroups_affidavit :
    (affidavit style m).checkboxGroups =
      [Compose.passageGroup style domicile m (domicileOptions m),
        Compose.passageGroup style outsideProperty m outsideOptions] := by
  simp [Section.checkboxGroups, affidavit]

/-- The boxes of the affidavit of assets: the exhibits have none. -/
theorem checkboxGroups_document :
    (document style m).checkboxGroups =
      [Compose.passageGroup style domicile m (domicileOptions m),
        Compose.passageGroup style outsideProperty m outsideOptions] := by
  have exhibitA : (exhibitA style m).checkboxGroups = [] := rfl
  have exhibitB : (if m.assets.hasOutsideProperty then [exhibitB style m] else []).flatMap
      Section.checkboxGroups = [] := by
    split <;> rfl
  rw [DocumentContent.checkboxGroups_eq, ← checkboxGroups_affidavit]
  unfold document
  rw [List.flatMap_append, exhibitB, List.flatMap_cons, List.flatMap_cons, exhibitA]
  simp only [List.flatMap_nil, List.append_nil]

end AssetsAffidavit

/-! ## Letters -/

namespace CoverLetter

/-- The cover letter has no boxes. -/
theorem checkboxGroups_document (style : StyleProfile) (m : EstateModel) :
    (document style m).checkboxGroups = [] := by
  simp [DocumentContent.checkboxGroups_eq, document, Section.checkboxGroups, body, Letter.head,
    Letter.closing]

end CoverLetter

namespace ChecklistLetter

variable (style : StyleProfile) (m : EstateModel)

theorem checkboxGroups_signing : (signing style m).checkboxGroups = [] := by
  simp only [Section.checkboxGroups, signing, groupsOf_cons, groupsOf_ite, groupsOf_nil,
    Compose.group?_text, Option.toList, ite_self, List.nil_append]

theorem checkboxGroups_creditors :
    (creditors style m).checkboxGroups =
      [Compose.passageGroup style creditorNotice m creditorOptions] := by
  simp [Section.checkboxGroups, creditors]

/-- The boxes of the checklist. -/
theorem checkboxGroups_document :
    (document style m).checkboxGroups =
      [Compose.passageGroup style deliveryStep m (deliveryOptions m),
        Compose.passageGroup style earliestSubmission m (submissionOptions m),
        Compose.passageGroup style creditorNotice m creditorOptions] := by
  have delivery : (delivery style m).checkboxGroups =
      [Compose.passageGroup style deliveryStep m (deliveryOptions m),
        Compose.passageGroup style earliestSubmission m (submissionOptions m)] := by
    simp [Section.checkboxGroups, delivery]
  have copies : (copies style m).checkboxGroups = [] := rfl
  rw [DocumentContent.checkboxGroups_eq]
  unfold document
  simp only [List.flatMap_cons, List.flatMap_nil, Letter.checkboxGroups_head,
    checkboxGroups_signing, delivery, checkboxGroups_creditors, copies,
    Letter.checkboxGroups_closing, List.nil_append, List.append_nil, List.cons_append]

end ChecklistLetter

end EstateFiling
