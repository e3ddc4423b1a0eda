import EstateFiling.Proofs.Form.AbsentWill
import EstateFiling.Proofs.Form.CheckedBoxes
import Mathlib.Data.List.TFAE

/-!
# What the documents say of the will

Five documents speak of the will, each by conditions of its own: whether there is one,
whether the original is at hand, whether it is electronic, and whether a copy of an
electronic will was demanded.  They agree (`EstateModel.documents_agree_on_will`).

Each box is first reduced to the facts it stands for: `Submission.checks_noWill_iff` and
its siblings.  The notice and the affidavit of delivery speak of an electronic will in the
same cases only because a will that exists is on record (`EstateModel.exists_will`).  For
an ancillary grant the notice says nothing of the will, so there they are compared for the
other grants.
-/

namespace EstateFiling

/-- A will that exists is on record. -/
theorem EstateModel.exists_will {m : EstateModel} (h : m.willExists = true) :
    ∃ w, m.will = some w := by
  unfold willExists existingWill? at h
  split at h
  · obtain ⟨w, hw⟩ := Option.isSome_iff_exists.mp h
    exact ⟨w, (Option.filter_eq_some_iff.mp hw).1⟩
  · cases h

variable (style : StyleProfile) (m : EstateModel)

/-! ## Whether there is a will -/

namespace Submission

theorem checks_noWill_iff :
    (m.document style .submission).Checks "will_documents" "no_will" ↔ m.willExists = false := by
  refine (m.checks_clause_iff style (t := willDocuments)
    (by simp [DocumentKind.passages, passages]) (by decide) _).trans ?_
  cases he : m.willExists <;> cases ho : m.will.any Will.originalAvailable <;>
    simp [ClauseTable.Settles, willDocuments, he, ho]

theorem checks_originals_iff :
    (m.document style .submission).Checks "will_documents" "originals" ↔
      m.willExists = true ∧ m.will.any Will.originalAvailable = true := by
  refine (m.checks_clause_iff style (t := willDocuments)
    (by simp [DocumentKind.passages, passages]) (by decide) _).trans ?_
  simp [ClauseTable.Settles, willDocuments]

theorem checks_copies_iff :
    (m.document style .submission).Checks "will_documents" "copies" ↔
      m.willExists = true ∧ m.will.any Will.originalAvailable = false := by
  refine (m.checks_clause_iff style (t := willDocuments)
    (by simp [DocumentKind.passages, passages]) (by decide) _).trans ?_
  simp [ClauseTable.Settles, willDocuments]

end Submission

/-- Each affidavit says that the will was not found, or none does. -/
theorem ShortAffidavit.notLocated_everywhere_iff :
    (∀ g ∈ (m.document style .shortAffidavit).checkboxGroups,
        g.id = "will_recital" → g.isChecked "not_located" = true) ↔ m.willExists = false := by
  have passage : willRecital ∈ DocumentKind.shortAffidavit.passages := List.mem_cons_self
  refine (m.checks_everywhere_iff style passage (by decide) _).trans ?_
  refine (m.checks_clause_iff style passage (by decide) _).trans ?_
  simp [ClauseTable.Settles, willRecital]

theorem CoverLetter.no_willText_iff :
    (∀ e ∈ willTexts, ¬ m.Encloses style e) ↔ m.willExists = false := by
  have original : m.Encloses style "Originally signed will and any codicils" ↔
      m.willExists = true ∧ m.will.any Will.originalAvailable = true :=
    m.encloses_iff style .originalWill
  have copy : m.Encloses style "Copy of the will and any codicils" ↔
      m.willExists = true ∧ m.will.any Will.originalAvailable = false :=
    m.encloses_iff style .willCopy
  simp only [willTexts, List.forall_mem_cons, original, copy]
  cases m.willExists <;> cases m.will.any Will.originalAvailable <;> simp

/-! ## What kind of will there is -/

namespace DeliveryAffidavit

theorem checks_noWill_iff :
    (m.document style .deliveryAffidavit).Checks "will_copy" "no_will" ↔
      m.willExists = false := by
  refine (m.checks_clause_iff style (t := willCopy)
    (by simp [DocumentKind.passages, passages]) (by decide) _).trans ?_
  cases he : m.willExists with
  | false => simp [ClauseTable.Settles, willCopy, he]
  | true =>
    obtain ⟨w, hw⟩ := EstateModel.exists_will he
    cases electronic : w.electronic <;> simp [ClauseTable.Settles, willCopy, he, hw, electronic]

theorem checks_attached_iff :
    (m.document style .deliveryAffidavit).Checks "will_copy" "will_copy_attached" ↔
      m.willExists = true ∧ m.will.any Will.electronic = false := by
  refine (m.checks_clause_iff style (t := willCopy)
    (by simp [DocumentKind.passages, passages]) (by decide) _).trans ?_
  cases he : m.willExists with
  | false => simp [ClauseTable.Settles, willCopy, he]
  | true =>
    obtain ⟨w, hw⟩ := EstateModel.exists_will he
    simp [ClauseTable.Settles, willCopy, he, hw]

theorem checks_electronic_iff :
    (m.document style .deliveryAffidavit).Checks "will_copy" "electronic_will_copy" ↔
      m.willExists = true ∧ m.will.any Will.electronic = true := by
  refine (m.checks_clause_iff style (t := willCopy)
    (by simp [DocumentKind.passages, passages]) (by decide) _).trans ?_
  simp [ClauseTable.Settles, willCopy]

theorem checks_demanded_iff :
    (m.document style .deliveryAffidavit).Checks "electronic_will_demand" "demanded" ↔
      (m.willExists = true ∧ m.will.any Will.electronic = true)
        ∧ m.will.any (fun w => w.electronicDemand.demanded) = true := by
  refine (m.checks_clause_iff style (t := electronicWillDemand)
    (by simp [DocumentKind.passages, passages]) (by decide) _).trans ?_
  cases hw : m.will <;> simp [ClauseTable.Settles, electronicWillDemand, hw, and_assoc]

end DeliveryAffidavit

namespace Notice

variable {m} (h : m.grantType.isAncillary = false)
include h

theorem checks_physical_iff :
    (m.document style .notice).Checks "will_basis" "physical_will" ↔
      m.willExists = true ∧ m.will.any Will.electronic = false := by
  refine (m.checks_clause_iff style (t := willBasis) List.mem_cons_self (by decide) _).trans ?_
  simp [ClauseTable.Settles, willBasis, h]

theorem select_electronic_iff :
    (willBasis.select m).active = "electronic_will" ↔
      m.willExists = true ∧ m.will.any Will.electronic = true := by
  rw [(willBasis_exclusive m).select_active_iff]
  simp [ClauseTable.Settles, willBasis, h]

theorem checks_electronic_iff :
    (m.document style .notice).Checks "will_basis" "electronic_will" ↔
      m.willExists = true ∧ m.will.any Will.electronic = true := by
  refine (m.checks_clause_iff style (t := willBasis) List.mem_cons_self (by decide) _).trans ?_
  rw [← (willBasis_exclusive m).select_active_iff, select_electronic_iff h]

end Notice

/-! ## The copy of an electronic will -/

namespace Notice

/-- The groups of the notice when it is based on an electronic will. -/
theorem checkboxGroups_electronic {m : EstateModel}
    (electronic : (willBasis.select m).active = "electronic_will") :
    (document style m).checkboxGroups =
      [Compose.passageGroup style willBasis m (basisOptions m)]
        ++ Compose.passageGroup style electronicWillCopy m (electronicWillOptions m)
        :: [Compose.passageGroup style serviceAddress m (serviceOptions m)
            (some "Address for service of the applicant(s):"),
          Compose.passageGroup style indigenousNotice m (indigenousOptions m)
            (some "Indigenous status of the deceased:")] := by
  rw [checkboxGroups_document, if_pos (by simp [ClauseSelection.isActive, electronic])]
  rfl

/-- The notice says how a copy was given only of an electronic will. -/
theorem checks_demanded_iff :
    (m.document style .notice).Checks "electronic_will_copy" "demanded" ↔
      (willBasis.select m).active = "electronic_will"
        ∧ m.will.any (fun w => w.electronicDemand.demanded) = true := by
  have passage : electronicWillCopy ∈ DocumentKind.notice.passages := by
    simp [DocumentKind.passages, passages]
  have demanded : (electronicWillCopy.select m).active = "demanded" ↔
      m.will.any (fun w => w.electronicDemand.demanded) = true := by
    rw [(DocumentKind.passages_exclusive .notice m _ passage).select_active_iff]
    simp [ClauseTable.Settles, electronicWillCopy]
  by_cases electronic : (willBasis.select m).active = "electronic_will"
  · have printed : Compose.passageGroup style electronicWillCopy m (electronicWillOptions m) ∈
        (m.document style .notice).checkboxGroups := by
      rw [EstateModel.document, checkboxGroups_electronic style electronic]
      exact List.mem_append_right _ List.mem_cons_self
    refine (m.checks_iff style passage (by decide) printed rfl _).trans ?_
    rw [demanded, and_iff_right electronic]
  · -- Then no group has this name.
    have ids : (m.document style .notice).checkboxGroups.map CheckboxGroup.id =
        ["will_basis", "service_address", "indigenous_notice"] := by
      rw [EstateModel.document, checkboxGroups_document,
        if_neg (by simpa [ClauseSelection.isActive] using electronic)]
      rfl
    constructor
    · rintro ⟨g, hg, named, _⟩
      have listed := List.mem_map_of_mem (f := CheckboxGroup.id) hg
      rw [ids, named] at listed
      exact absurd listed (by decide)
    · rintro ⟨active, _⟩
      exact absurd active electronic

/-- How the notice words the copies that were demanded. -/
theorem labels_demanded {m : EstateModel}
    (electronic : (willBasis.select m).active = "electronic_will") :
    (m.document style .notice).labels "electronic_will_copy" "demanded" =
      ["A copy of the electronic will was demanded and has been provided in the form demanded to: "
        ++ Form.copyRecipients m] := by
  have once : "electronic_will_copy" ∉ ["will_basis", "service_address", "indigenous_notice"] := by
    decide
  exact DocumentContent.labels_passage (t := electronicWillCopy)
    (checkboxGroups_electronic style electronic) once "demanded"

end Notice

/-- How the affidavit of delivery words the copies that were demanded. -/
theorem DeliveryAffidavit.labels_demanded :
    (m.document style .deliveryAffidavit).labels "electronic_will_demand" "demanded" =
      ["A copy of the electronic will was demanded and was provided to: "
        ++ Form.copyRecipients m] := by
  have printed : (document style m).checkboxGroups =
      (DeliveryMethod.all.flatMap (methodGroups style m)
        ++ [Compose.passageGroup style willCopy m willCopyOptions])
        ++ Compose.passageGroup style electronicWillDemand m (demandOptions m) :: [] := by
    rw [checkboxGroups_document, List.append_assoc]
    rfl
  have once : "electronic_will_demand" ∉
      (DeliveryMethod.all.flatMap (methodGroups style m)
        ++ [Compose.passageGroup style willCopy m willCopyOptions]).map CheckboxGroup.id := by
    rw [List.map_append, List.mem_append, not_or]
    refine ⟨?methods, (by decide : "electronic_will_demand" ∉ ["will_copy"])⟩
    case methods =>
      intro same
      obtain ⟨g, hg, same⟩ := List.mem_map.mp same
      obtain ⟨method, _, hg⟩ := List.mem_flatMap.mp hg
      have independent := id_mem_independentBoxes style m method hg
      rw [same] at independent
      exact absurd independent (by decide)
  exact DocumentContent.labels_passage (t := electronicWillDemand) printed
    (by rwa [List.append_nil]) "demanded"

/-! ## All five documents -/

/-- The notice and the affidavit of delivery speak of the same will. -/
structure EstateModel.NoticeMatchesDelivery (m : EstateModel) (style : StyleProfile) : Prop where
  /-- The notice rests on a will on paper exactly if a copy of one was delivered. -/
  physical : (m.document style .notice).Checks "will_basis" "physical_will" ↔
    (m.document style .deliveryAffidavit).Checks "will_copy" "will_copy_attached"
  /-- The notice rests on an electronic will exactly if one was delivered. -/
  electronic : (m.document style .notice).Checks "will_basis" "electronic_will" ↔
    (m.document style .deliveryAffidavit).Checks "will_copy" "electronic_will_copy"
  /-- The notice gives copies on demand exactly if the affidavit says so. -/
  demanded : (m.document style .notice).Checks "electronic_will_copy" "demanded" ↔
    (m.document style .deliveryAffidavit).Checks "electronic_will_demand" "demanded"
  /-- Then both name the people whom the will's demand names. -/
  recipients : (m.document style .notice).Checks "electronic_will_copy" "demanded" →
    ∃ w, m.will = some w
      ∧ (m.document style .notice).labels "electronic_will_copy" "demanded" =
        ["A copy of the electronic will was demanded and has been provided in the form demanded to: "
          ++ Form.blankOr 30 w.electronicDemand.providedTo]
      ∧ (m.document style .deliveryAffidavit).labels "electronic_will_demand" "demanded" =
        ["A copy of the electronic will was demanded and was provided to: "
          ++ Form.blankOr 30 w.electronicDemand.providedTo]

theorem EstateModel.noticeMatchesDelivery {m : EstateModel}
    (h : m.grantType.isAncillary = false) : m.NoticeMatchesDelivery style where
  physical := by rw [Notice.checks_physical_iff style h, DeliveryAffidavit.checks_attached_iff]
  electronic := by
    rw [Notice.checks_electronic_iff style h, DeliveryAffidavit.checks_electronic_iff]
  demanded := by
    rw [Notice.checks_demanded_iff, DeliveryAffidavit.checks_demanded_iff,
      Notice.select_electronic_iff h]
  recipients := by
    intro demanded
    obtain ⟨electronic, _⟩ := (Notice.checks_demanded_iff style m).mp demanded
    obtain ⟨w, hw⟩ := exists_will ((Notice.select_electronic_iff h).mp electronic).1
    have names : Form.copyRecipients m = Form.blankOr 30 w.electronicDemand.providedTo := by
      unfold Form.copyRecipients
      rw [hw]
    refine ⟨w, hw, ?_, ?_⟩
    · rw [Notice.labels_demanded style electronic, names]
    · rw [DeliveryAffidavit.labels_demanded, names]

/-- The documents tell one story about the will.  The submission, the affidavit of
delivery, the affidavits of the applicants and the cover letter agree on whether there is
one; the cover letter encloses the original or a copy as the submission says; and unless
the grant is ancillary, the notice speaks of the same will as the affidavit of delivery. -/
theorem EstateModel.documents_agree_on_will (m : EstateModel) (style : StyleProfile) :
    [(m.document style .submission).Checks "will_documents" "no_will",
      (m.document style .deliveryAffidavit).Checks "will_copy" "no_will",
      ∀ g ∈ (m.document style .shortAffidavit).checkboxGroups,
        g.id = "will_recital" → g.isChecked "not_located" = true,
      ∀ e ∈ CoverLetter.willTexts, ¬ m.Encloses style e].TFAE
    ∧ (m.Encloses style "Originally signed will and any codicils" ↔
        (m.document style .submission).Checks "will_documents" "originals")
    ∧ (m.Encloses style "Copy of the will and any codicils" ↔
        (m.document style .submission).Checks "will_documents" "copies")
    ∧ (m.grantType.isAncillary = false → m.NoticeMatchesDelivery style) := by
  refine ⟨?absent, ?originals, ?copies, fun h => noticeMatchesDelivery style h⟩
  case absent =>
    -- Each of the four says that no will exists.
    refine List.tfae_of_forall (m.willExists = false) _ ?_
    simp only [List.forall_mem_cons]
    exact ⟨Submission.checks_noWill_iff style m, DeliveryAffidavit.checks_noWill_iff style m,
      ShortAffidavit.notLocated_everywhere_iff style m, CoverLetter.no_willText_iff style m,
      List.forall_mem_nil _⟩
  case originals =>
    rw [Submission.checks_originals_iff]
    exact m.encloses_iff style .originalWill
  case copies =>
    rw [Submission.checks_copies_iff]
    exact m.encloses_iff style .willCopy

/-- An electronic will, of which a copy was demanded. -/
def electronicWill : EstateModel where
  will := some
    { present := true, electronic := true,
      electronicDemand := { demanded := true, providedTo := ["Ann Lee"] } }

theorem electronicWill_copied_to :
    electronicWill.grantType.isAncillary = false
    ∧ (electronicWill.document .standard .notice).labels "electronic_will_copy" "demanded" =
      ["A copy of the electronic will was demanded and has been provided in the form demanded to: "
        ++ "Ann Lee"]
    ∧ (electronicWill.document .standard .deliveryAffidavit).labels "electronic_will_demand"
        "demanded" =
      ["A copy of the electronic will was demanded and was provided to: " ++ "Ann Lee"] := by
  have agree := (electronicWill.documents_agree_on_will .standard).2.2.2 rfl
  have demanded : (electronicWill.document .standard .deliveryAffidavit).Checks
      "electronic_will_demand" "demanded" :=
    (DeliveryAffidavit.checks_demanded_iff .standard electronicWill).mpr ⟨⟨rfl, rfl⟩, rfl⟩
  obtain ⟨w, hw, notice, delivery⟩ := agree.recipients (agree.demanded.mpr demanded)
  obtain rfl := Option.some.inj hw
  exact ⟨rfl, notice, delivery⟩

end EstateFiling
