import EstateFiling.Proofs.Form.CheckedBoxes
import EstateFiling.Proofs.Form.Enclosures

/-!
# What the documents say of the delivery

Three documents say whether the notice was delivered.  The submission and the checklist
go by the waiver first and look at the deliveries only without one.  The cover letter
encloses the affidavit of delivery unless there is nothing to swear: it counts deliveries
that were recorded in spite of a waiver, and without a waiver it counts on deliveries that
are still to come.

So the letter encloses the affidavit whenever the submission files it, and all three say
the same exactly if delivery is waived where none is recorded, and only there
(`EstateModel.delivery_documents_iff`).
-/

namespace EstateFiling

variable (style : StyleProfile) (m : EstateModel)

/-! ## Boxes and enclosure -/

namespace Submission

theorem checks_delivered_iff :
    (m.document style .submission).Checks "delivery_affidavit" "filed" ↔
      m.filing.deliveryWaived = false ∧ m.deliveries ≠ [] := by
  refine (m.checks_clause_iff style (t := deliveryAffidavit)
    (by simp [DocumentKind.passages, passages]) (by decide) _).trans ?_
  simp [ClauseTable.Settles, deliveryAffidavit]

theorem checks_waived_iff :
    (m.document style .submission).Checks "delivery_affidavit" "waived" ↔
      m.filing.deliveryWaived = true := by
  refine (m.checks_clause_iff style (t := deliveryAffidavit)
    (by simp [DocumentKind.passages, passages]) (by decide) _).trans ?_
  simp [ClauseTable.Settles, deliveryAffidavit]

end Submission

namespace ChecklistLetter

theorem checks_complete_iff :
    (m.document style .filingChecklistLetter).Checks "delivery_step" "complete" ↔
      m.filing.deliveryWaived = false ∧ m.deliveries ≠ [] := by
  refine (m.checks_clause_iff style (t := deliveryStep) List.mem_cons_self (by decide) _).trans ?_
  simp [ClauseTable.Settles, deliveryStep]

theorem checks_waived_iff :
    (m.document style .filingChecklistLetter).Checks "delivery_step" "waived" ↔
      m.filing.deliveryWaived = true := by
  refine (m.checks_clause_iff style (t := deliveryStep) List.mem_cons_self (by decide) _).trans ?_
  simp [ClauseTable.Settles, deliveryStep]

end ChecklistLetter

theorem EstateModel.encloses_delivery_iff :
    m.Encloses style "Affidavit of delivery (Form P9)" ↔
      m.deliveries ≠ [] ∨ m.filing.deliveryWaived = false :=
  m.encloses_iff style .deliveryAffidavit

/-! ## All three documents -/

/-- The submission, the checklist and the cover letter say the same of the delivery. -/
structure EstateModel.DeliveryToldAlike (m : EstateModel) (style : StyleProfile) : Prop where
  /-- The submission files the affidavit exactly if the delivery is complete. -/
  filed : (m.document style .submission).Checks "delivery_affidavit" "filed" ↔
    (m.document style .filingChecklistLetter).Checks "delivery_step" "complete"
  /-- The letter encloses it exactly then. -/
  enclosed : (m.document style .filingChecklistLetter).Checks "delivery_step" "complete" ↔
    m.Encloses style "Affidavit of delivery (Form P9)"
  /-- The submission and the checklist agree on a waiver. -/
  waived : (m.document style .submission).Checks "delivery_affidavit" "waived" ↔
    (m.document style .filingChecklistLetter).Checks "delivery_step" "waived"
  /-- Under a waiver nothing is enclosed. -/
  dispensed : (m.document style .submission).Checks "delivery_affidavit" "waived" →
    ¬ m.Encloses style "Affidavit of delivery (Form P9)"

/-- The facts under which all three say the same. -/
theorem EstateModel.deliveryToldAlike_iff :
    m.DeliveryToldAlike style ↔ (m.filing.deliveryWaived = true ↔ m.deliveries = []) := by
  have delivered := Submission.checks_delivered_iff style m
  have complete := ChecklistLetter.checks_complete_iff style m
  have enclosed := m.encloses_delivery_iff style
  constructor
  · intro alike
    have same := (complete.symm.trans alike.enclosed).trans enclosed
    cases waived : m.filing.deliveryWaived with
    | false =>
      rw [waived] at same
      exact iff_of_false Bool.false_ne_true (same.mpr (Or.inr rfl)).2
    | true =>
      rw [waived] at same
      refine iff_of_true rfl (Classical.byContradiction fun recorded => ?_)
      exact Bool.noConfusion (same.mpr (Or.inl recorded)).1
  · intro apart
    refine ⟨delivered.trans complete.symm, complete.trans (Iff.trans ?_ enclosed.symm), ?_, ?_⟩
    · cases waived : m.filing.deliveryWaived with
      | false =>
        have recorded : m.deliveries ≠ [] := fun undelivered =>
          Bool.false_ne_true (waived.symm.trans (apart.mpr undelivered))
        exact iff_of_true ⟨rfl, recorded⟩ (Or.inl recorded)
      | true =>
        have undelivered : m.deliveries = [] := apart.mp waived
        simp [undelivered]
    · exact (Submission.checks_waived_iff style m).trans
        (ChecklistLetter.checks_waived_iff style m).symm
    · intro waived listed
      rw [Submission.checks_waived_iff] at waived
      rcases enclosed.mp listed with recorded | unwaived
      · exact recorded (apart.mp waived)
      · exact Bool.false_ne_true (unwaived.symm.trans waived)

/-- The submission and the checklist agree on the delivery.  The cover letter encloses
the affidavit of delivery unless delivery is waived and none is recorded, so it encloses
what the submission files, and under a waiver it still encloses deliveries on record.
The three say the same exactly if delivery is waived where none is recorded, and only
there. -/
theorem EstateModel.delivery_documents_iff (m : EstateModel) (style : StyleProfile) :
    ((m.document style .submission).Checks "delivery_affidavit" "filed" ↔
      (m.document style .filingChecklistLetter).Checks "delivery_step" "complete")
    ∧ ((m.document style .submission).Checks "delivery_affidavit" "waived" ↔
      (m.document style .filingChecklistLetter).Checks "delivery_step" "waived")
    ∧ (m.Encloses style "Affidavit of delivery (Form P9)" ↔
      ¬ (m.document style .submission).Checks "delivery_affidavit" "waived" ∨ m.deliveries ≠ [])
    ∧ ((m.document style .submission).Checks "delivery_affidavit" "filed" →
      m.Encloses style "Affidavit of delivery (Form P9)")
    ∧ (m.DeliveryToldAlike style ↔ (m.filing.deliveryWaived = true ↔ m.deliveries = [])) := by
  have enclosed := m.encloses_delivery_iff style
  refine ⟨?filed, ?waived, ?listed, ?included, m.deliveryToldAlike_iff style⟩
  case filed => rw [Submission.checks_delivered_iff, ChecklistLetter.checks_complete_iff]
  case waived => rw [Submission.checks_waived_iff, ChecklistLetter.checks_waived_iff]
  case listed =>
    rw [enclosed, Submission.checks_waived_iff, Bool.not_eq_true]
    exact or_comm
  case included =>
    intro filed
    exact enclosed.mpr (Or.inl ((Submission.checks_delivered_iff style m).mp filed).2)

/-- Delivery was waived, and one is recorded all the same. -/
def waivedButDelivered : EstateModel where
  deliveries := [{ recipient := "Ann Lee", method := .postal }]
  filing := { deliveryWaived := true }

theorem not_deliveryToldAlike :
    ¬ ({} : EstateModel).DeliveryToldAlike .standard
    ∧ ¬ waivedButDelivered.DeliveryToldAlike .standard := by
  rw [EstateModel.deliveryToldAlike_iff, EstateModel.deliveryToldAlike_iff]
  refine ⟨fun apart => ?unwaived, fun apart => ?waived⟩
  case unwaived => exact Bool.false_ne_true (apart.mpr rfl)
  case waived => exact List.cons_ne_nil _ _ (apart.mp rfl)

end EstateFiling
