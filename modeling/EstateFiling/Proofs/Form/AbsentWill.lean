import EstateFiling.Proofs.Document.Redaction
import EstateFiling.Proofs.Form.Enclosures
import EstateFiling.Proofs.Form.SingleChoice

/-!
# A will that does not exist

A will counts only when it is present and the grant rests on one
(`EstateModel.willExists`).  Where it does not count, no document asserts anything
about it: the redaction of every document is that of the same estate with the will
removed (`EstateModel.redacted_document_withoutWill`), no box is checked that
affirms a will (`EstateModel.isChecked_affirmation`), and the cover letter encloses
none (`CoverLetter.not_mem_willTexts`).

The forms consult the will in clauses, in the wording of clauses, in an exhibit
and in a list of enclosures.  A section that does none of these is the same text
for both estates, and `rfl` says so.  For the others, the clauses that consult the
will are shown to select alike, and their wording differs only for clauses that
are not active.
-/

namespace EstateFiling

/-! ## The estate without its will -/

namespace EstateModel

/-- The estate with its will removed. -/
def withoutWill (m : EstateModel) : EstateModel := { m with will := none }

variable {m : EstateModel}

@[simp] theorem willExists_withoutWill (m : EstateModel) : m.withoutWill.willExists = false := by
  unfold willExists existingWill? withoutWill
  split <;> rfl

@[simp] theorem will_withoutWill (m : EstateModel) : m.withoutWill.will = none := rfl

@[simp] theorem grantType_withoutWill (m : EstateModel) :
    m.withoutWill.grantType = m.grantType := rfl

@[simp] theorem foreignGrant_withoutWill (m : EstateModel) :
    m.withoutWill.foreignGrant = m.foreignGrant := rfl

end EstateModel

/-! ## Clauses that consult the will -/

variable (style : StyleProfile) {m : EstateModel}

namespace Notice

theorem willBasis_select_withoutWill (h : m.willExists = false) :
    willBasis.select m = willBasis.select m.withoutWill := by
  refine ClauseTable.select_congr ?_
  simp [willBasis, h]

/-- Without a will the application is not based on one. -/
theorem willBasis_active_ne (h : m.willExists = false) {box : String}
    (basis : box ∈ ["physical_will", "electronic_will"]) : (willBasis.select m).active ≠ box := by
  rcases List.mem_pair.mp basis with rfl | rfl <;>
    exact ClauseTable.select_active_ne (by decide) (by simp [willBasis, h])

theorem redacted_application (h : m.willExists = false) :
    (application style m).redacted = (application style m.withoutWill).redacted := by
  have selected := willBasis_select_withoutWill h
  have inactive : ∀ box ∈ ["physical_will", "electronic_will"],
      (willBasis.select m.withoutWill).isActive box = false := fun box basis =>
    beq_false_of_ne (willBasis_active_ne m.willExists_withoutWill basis)
  have physical := inactive "physical_will" (by decide)
  have electronic := inactive "electronic_will" (by decide)
  have basis := Compose.redacted_passage_congr style none (basisOptions m)
    (basisOptions m.withoutWill) selected rfl
    (by simp [Compose.asserted, basisOptions, electronic, physical])
  unfold application Section.redacted
  rw [selected, electronic]
  simp only [Bool.false_eq_true, if_false, List.append_nil, List.map_cons, List.map_nil, basis]
  rfl

theorem redacted_document (h : m.willExists = false) :
    (document style m).redacted = (document style m.withoutWill).redacted := by
  unfold document DocumentContent.redacted
  simp only [List.map_cons, List.map_nil, redacted_application style h]
  rfl

end Notice

namespace Submission

theorem willDocuments_select (h : m.willExists = false) :
    willDocuments.select m = ⟨"will_documents", "no_will", false⟩ := by
  simp [ClauseTable.select, ClauseTable.matching, willDocuments, h]

theorem translation_select (h : m.willExists = false) :
    translation.select m = ⟨"translation", "not_required", true⟩ := by
  simp [ClauseTable.select, ClauseTable.matching, translation, h]

theorem redacted_documentsPart (h : m.willExists = false) :
    (documentsPart style m).redacted = (documentsPart style m.withoutWill).redacted := by
  have gone := m.willExists_withoutWill
  have documents := Compose.redacted_passage_congr style none willOptions willOptions
    (willDocuments_select h) (willDocuments_select gone) rfl
  have translated := Compose.redacted_passage_congr style none translationOptions
    translationOptions (translation_select h) (translation_select gone) rfl
  unfold documentsPart Section.redacted
  simp only [List.map_cons, List.map_nil, documents, translated]
  rfl

theorem redacted_document (h : m.willExists = false) :
    (document style m).redacted = (document style m.withoutWill).redacted := by
  unfold document DocumentContent.redacted
  simp only [List.map_append, List.map_cons, List.map_nil, redacted_documentsPart style h]
  rfl

end Submission

namespace ShortAffidavit

theorem willRecital_select (h : m.willExists = false) :
    willRecital.select m = ⟨"will_recital", "not_located", true⟩ := by
  simp [ClauseTable.select, ClauseTable.matching, willRecital, h]

theorem codicils_select (h : m.willExists = false) :
    codicils.select m = ⟨"codicils", "none", true⟩ := by
  simp [ClauseTable.select, ClauseTable.matching, codicils, h]

theorem alterations_select (h : m.willExists = false) :
    alterations.select m = ⟨"alterations", "no_alterations", true⟩ := by
  simp [ClauseTable.select, ClauseTable.matching, alterations, h]

theorem referencedDocuments_select (h : m.willExists = false) :
    referencedDocuments.select m = ⟨"referenced_documents", "none", true⟩ := by
  simp [ClauseTable.select, ClauseTable.matching, referencedDocuments, h]

theorem redacted_affidavit (h : m.willExists = false) (number : Nat) (d : Deponents) :
    (affidavit style m number d).redacted =
      (affidavit style m.withoutWill number d).redacted := by
  have gone := m.willExists_withoutWill
  have recital := Compose.redacted_passage_congr style none
    (recitalOptions d (m.will.getD {})) (recitalOptions d (m.withoutWill.will.getD {}))
    (willRecital_select h) (willRecital_select gone) (by simp [Compose.asserted, recitalOptions,
      ClauseSelection.isActive])
  have codicil := Compose.redacted_passage_congr style none
    (codicilOptions d (m.will.getD {})) (codicilOptions d (m.withoutWill.will.getD {}))
    (codicils_select h) (codicils_select gone) (by simp [Compose.asserted, codicilOptions,
      ClauseSelection.isActive])
  have condition := Compose.redacted_passage_congr style none alterationOptions alterationOptions
    (alterations_select h) (alterations_select gone) rfl
  have documents := Compose.redacted_passage_congr style none
    (referencedOptions (m.will.getD {})) (referencedOptions (m.withoutWill.will.getD {}))
    (referencedDocuments_select h) (referencedDocuments_select gone)
    (by simp [Compose.asserted, referencedOptions, ClauseSelection.isActive])
  unfold affidavit Section.redacted
  simp only [List.map_append, List.map_cons, List.map_nil, recital, codicil, condition, documents]
  rfl

theorem redacted_exhibit (h : m.willExists = false) (number : Nat) (d : Deponents) :
    (exhibit style m number d).redacted = (exhibit style m.withoutWill number d).redacted := by
  have same : attachment m = attachment m.withoutWill := by
    unfold attachment
    rw [h, m.willExists_withoutWill]
  unfold exhibit
  rw [same]

theorem redacted_document (h : m.willExists = false) :
    (document style m).redacted = (document style m.withoutWill).redacted := by
  have sworn_same : ∀ i d, (sworn style m i d).map Section.redacted =
      (sworn style m.withoutWill i d).map Section.redacted := by
    intro i d
    simp only [sworn, List.map_cons, List.map_nil, redacted_affidavit style h,
      redacted_exhibit style h]
  unfold document DocumentContent.redacted
  simp only [List.map_flatten, List.mapIdx_eq_zipIdx_map, List.map_map, Function.comp_def,
    sworn_same]
  rfl

end ShortAffidavit

namespace DeliveryAffidavit

theorem willCopy_select (h : m.willExists = false) :
    willCopy.select m = ⟨"will_copy", "no_will", true⟩ := by
  simp [ClauseTable.select, ClauseTable.matching, willCopy, h]

theorem electronicWillDemand_select (h : m.willExists = false) :
    electronicWillDemand.select m = ⟨"electronic_will_demand", "not_demanded", true⟩ := by
  simp [ClauseTable.select, ClauseTable.matching, electronicWillDemand, h]

theorem redacted_affidavit (h : m.willExists = false) :
    (affidavit style m).redacted = (affidavit style m.withoutWill).redacted := by
  have gone := m.willExists_withoutWill
  have copy := Compose.redacted_passage_congr style none willCopyOptions willCopyOptions
    (willCopy_select h) (willCopy_select gone) rfl
  have demand := Compose.redacted_passage_congr style none (demandOptions m)
    (demandOptions m.withoutWill)
    (electronicWillDemand_select h) (electronicWillDemand_select gone)
    (by simp [Compose.asserted, demandOptions, ClauseSelection.isActive])
  unfold affidavit Section.redacted
  simp only [List.map_append, List.map_cons, List.map_nil, copy, demand]
  rfl

theorem redacted_document (h : m.willExists = false) :
    (document style m).redacted = (document style m.withoutWill).redacted := by
  unfold document DocumentContent.redacted
  simp only [List.map_cons, List.map_nil, redacted_affidavit style h]

end DeliveryAffidavit

/-! ## Enclosures -/

namespace CoverLetter

theorem enclosures_withoutWill (h : m.willExists = false) :
    enclosures m = enclosures m.withoutWill := by
  unfold enclosures
  rw [h, m.willExists_withoutWill]
  rfl

theorem document_withoutWill (h : m.willExists = false) :
    document style m = document style m.withoutWill := by
  unfold document body
  rw [enclosures_withoutWill h]
  rfl

/-- What the cover letter writes for an enclosed will. -/
def willTexts : List String :=
  ["Originally signed will and any codicils", "Copy of the will and any codicils"]

theorem not_mem_willTexts (h : m.willExists = false) :
    ∀ e ∈ enclosures m, e ∉ willTexts := by
  have missing : ¬ m.willExists = true := Bool.eq_false_iff.mp h
  intro e he hwill
  simp only [willTexts, List.mem_cons, List.not_mem_nil, or_false] at hwill
  obtain rfl | rfl := hwill
  · exact missing ((text_mem_enclosures_iff m .originalWill).mp he).1
  · exact missing ((text_mem_enclosures_iff m .willCopy).mp he).1

end CoverLetter

/-! ## Boxes that affirm a will -/

/-- The boxes of a kind of document that affirm something of a will: the name of
the group and the identifier of the box. -/
def DocumentKind.willAffirmations : DocumentKind → List (String × String)
  | .notice => [("will_basis", "physical_will"), ("will_basis", "electronic_will")]
  | .submission =>
      [("will_documents", "originals"), ("will_documents", "copies"), ("translation", "required")]
  | .shortAffidavit =>
      [("will_recital", "located"), ("codicils", "present"), ("alterations", "alterations"),
        ("alterations", "obliterations"), ("referenced_documents", "listed")]
  | .deliveryAffidavit =>
      [("will_copy", "will_copy_attached"), ("will_copy", "electronic_will_copy"),
        ("electronic_will_demand", "demanded")]
  | .administrationAffidavit | .assetsAffidavit | .registryCoverLetter
  | .filingChecklistLetter => []

/-- Each affirmation is a clause of a passage, which is not active without a
will. -/
theorem DocumentKind.affirmation_inactive (h : m.willExists = false) (kind : DocumentKind) :
    ∀ p ∈ kind.willAffirmations,
      ∃ t ∈ kind.passages, t.group = p.1 ∧ (t.select m).active ≠ p.2 := by
  cases kind with
  | notice =>
    simp only [willAffirmations, List.forall_mem_cons]
    exact ⟨⟨Notice.willBasis, by simp [passages, Notice.passages], rfl,
        Notice.willBasis_active_ne h (by decide)⟩,
      ⟨Notice.willBasis, by simp [passages, Notice.passages], rfl,
        Notice.willBasis_active_ne h (by decide)⟩,
      List.forall_mem_nil _⟩
  | submission =>
    have documents := Submission.willDocuments_select h
    have translation := Submission.translation_select h
    simp only [willAffirmations, List.forall_mem_cons]
    exact ⟨⟨Submission.willDocuments, by simp [passages, Submission.passages], rfl,
        by simp [documents]⟩,
      ⟨Submission.willDocuments, by simp [passages, Submission.passages], rfl,
        by simp [documents]⟩,
      ⟨Submission.translation, by simp [passages, Submission.passages], rfl,
        by simp [translation]⟩,
      List.forall_mem_nil _⟩
  | shortAffidavit =>
    have recital := ShortAffidavit.willRecital_select h
    have codicils := ShortAffidavit.codicils_select h
    have condition := ShortAffidavit.alterations_select h
    have documents := ShortAffidavit.referencedDocuments_select h
    simp only [willAffirmations, List.forall_mem_cons]
    exact ⟨⟨ShortAffidavit.willRecital, by simp [passages, ShortAffidavit.passages], rfl,
        by simp [recital]⟩,
      ⟨ShortAffidavit.codicils, by simp [passages, ShortAffidavit.passages], rfl,
        by simp [codicils]⟩,
      ⟨ShortAffidavit.alterations, by simp [passages, ShortAffidavit.passages], rfl,
        by simp [condition]⟩,
      ⟨ShortAffidavit.alterations, by simp [passages, ShortAffidavit.passages], rfl,
        by simp [condition]⟩,
      ⟨ShortAffidavit.referencedDocuments, by simp [passages, ShortAffidavit.passages], rfl,
        by simp [documents]⟩,
      List.forall_mem_nil _⟩
  | deliveryAffidavit =>
    have copy := DeliveryAffidavit.willCopy_select h
    have demand := DeliveryAffidavit.electronicWillDemand_select h
    simp only [willAffirmations, List.forall_mem_cons]
    exact ⟨⟨DeliveryAffidavit.willCopy, by simp [passages, DeliveryAffidavit.passages], rfl,
        by simp [copy]⟩,
      ⟨DeliveryAffidavit.willCopy, by simp [passages, DeliveryAffidavit.passages], rfl,
        by simp [copy]⟩,
      ⟨DeliveryAffidavit.electronicWillDemand, by simp [passages, DeliveryAffidavit.passages],
        rfl, by simp [demand]⟩,
      List.forall_mem_nil _⟩
  | administrationAffidavit => exact List.forall_mem_nil _
  | assetsAffidavit => exact List.forall_mem_nil _
  | registryCoverLetter => exact List.forall_mem_nil _
  | filingChecklistLetter => exact List.forall_mem_nil _

/-- The groups of the affirmations are not among the independent boxes. -/
theorem DocumentKind.affirmation_not_independent {kind : DocumentKind} :
    ∀ p ∈ kind.willAffirmations, p.1 ∉ DeliveryAffidavit.independentBoxes := by
  cases kind <;> decide

/-- No box that affirms a will is checked without one. -/
theorem EstateModel.isChecked_affirmation (h : m.willExists = false) {kind : DocumentKind}
    {g : CheckboxGroup} (hg : g ∈ (m.document style kind).checkboxGroups) {id : String}
    (hid : (g.id, id) ∈ kind.willAffirmations) : g.isChecked id = false := by
  obtain ⟨active, governs, shows⟩ :=
    document_showsGoverning style m kind hg (DocumentKind.affirmation_not_independent _ hid)
  obtain ⟨t, ht, named, inactive⟩ := DocumentKind.affirmation_inactive h kind _ hid
  dsimp only at named inactive
  rw [← named] at governs
  have selected : active = (t.select m).active := governs.unique (.passage ht)
  refine Bool.eq_false_iff.mpr fun checked => inactive ?_
  rw [← selected]
  exact ((shows.isChecked_iff id).mp checked).symm

/-! ## Every document -/

/-- A will that does not exist leaves no trace in a document but the labels of
unchecked boxes. -/
theorem EstateModel.redacted_document_withoutWill (h : m.willExists = false)
    (kind : DocumentKind) :
    (m.document style kind).redacted = (m.withoutWill.document style kind).redacted := by
  cases kind with
  | notice => exact Notice.redacted_document style h
  | submission => exact Submission.redacted_document style h
  | shortAffidavit => exact ShortAffidavit.redacted_document style h
  | administrationAffidavit => rfl
  | deliveryAffidavit => exact DeliveryAffidavit.redacted_document style h
  | assetsAffidavit => rfl
  | registryCoverLetter =>
      exact congrArg DocumentContent.redacted (CoverLetter.document_withoutWill style h)
  | filingChecklistLetter => rfl

/-- A will that does not exist asserts nothing.  Two estates that differ in a will
which exists for neither have the same documents, up to the labels of boxes that
are unchecked in both; no box of these documents affirms a will, and the cover
letter encloses none. -/
theorem EstateModel.absent_will_asserts_nothing (m : EstateModel) (w : Option Will)
    (hm : m.willExists = false) (hw : ({ m with will := w } : EstateModel).willExists = false)
    (style : StyleProfile) :
    (∀ kind : DocumentKind,
      (m.document style kind).redacted =
        (({ m with will := w } : EstateModel).document style kind).redacted)
    ∧ (∀ kind : DocumentKind, ∀ g ∈ (m.document style kind).checkboxGroups, ∀ id : String,
        (g.id, id) ∈ kind.willAffirmations → g.isChecked id = false)
    ∧ (∀ e ∈ (m.document style .registryCoverLetter).tables.flatMap (fun t => t.column 1),
        e ∉ CoverLetter.willTexts) := by
  refine ⟨?documents, ?boxes, ?enclosures⟩
  case documents =>
    intro kind
    -- Both estates have the documents of the estate without a will.
    exact (redacted_document_withoutWill style hm kind).trans
      (redacted_document_withoutWill style hw kind).symm
  case boxes =>
    intro kind g hg id hid
    exact isChecked_affirmation style hm hg hid
  case enclosures =>
    intro e he
    have column : (m.document style .registryCoverLetter).tables.flatMap (fun t => t.column 1) =
        CoverLetter.enclosures m := by
      show (CoverLetter.document style m).tables.flatMap (fun t => t.column 1) = _
      rw [CoverLetter.tables_document, List.flatMap_singleton,
        CoverLetter.column_enclosureTable]
    rw [column] at he
    exact CoverLetter.not_mem_willTexts hm e he

/-- A draft of a will, with a codicil and alterations, which was never signed. -/
theorem EstateModel.draft_will_asserts_nothing :
    (({} : EstateModel).document .standard .shortAffidavit).redacted =
      (({ will := some { codicils := [{}], hasAlterations := true } } : EstateModel).document
        .standard .shortAffidavit).redacted :=
  (absent_will_asserts_nothing {} (some { codicils := [{}], hasAlterations := true })
    rfl rfl .standard).1 .shortAffidavit

end EstateFiling
