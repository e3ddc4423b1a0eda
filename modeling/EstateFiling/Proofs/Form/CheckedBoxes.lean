import EstateFiling.Proofs.Form.Deponents
import EstateFiling.Proofs.Form.SingleChoice

/-!
# Checked boxes

Which boxes a document checks, in terms of the clauses of its passages.  Every passage
that speaks of the estate is printed, with the one exception of the copy of an
electronic will, which the notice adds when the application rests on one
(`EstateModel.exists_printed`).  So a box is checked exactly if the estate settles on its
clause (`EstateModel.checks_clause_iff`).
-/

namespace EstateFiling

/-! ## Passages that are printed -/

section Printed

variable (style : StyleProfile) (m : EstateModel)

theorem Notice.group_mem_ids :
    ∀ t ∈ passages, t.group ≠ electronicWillCopy.group →
      t.group ∈ (document style m).checkboxGroups.map CheckboxGroup.id := by
  rw [checkboxGroups_document]
  simp only [passages, List.forall_mem_cons, List.map_append, List.map_cons]
  refine ⟨fun _ => ?basis, fun same => absurd rfl same, fun _ => ?service, fun _ => ?indigenous,
    List.forall_mem_nil _⟩
  case basis => exact List.mem_append_left _ List.mem_cons_self
  case service => exact List.mem_append_right _ List.mem_cons_self
  case indigenous => exact List.mem_append_right _ (List.mem_cons_of_mem _ List.mem_cons_self)

theorem Submission.ids_checkboxGroups :
    (document style m).checkboxGroups.map CheckboxGroup.id = passages.map ClauseTable.group := by
  rw [checkboxGroups_document, checkboxGroups_deceasedPart, checkboxGroups_applicantPart,
    checkboxGroups_documentsPart]
  rfl

/-- What the affidavit of each group prints besides the boxes of its members is printed,
since there is at least one group. -/
theorem Deponents.subset_ids_of_shared (own shared : Deponents → List CheckboxGroup)
    {ids : List String} (printed : ∀ d, (shared d).map CheckboxGroup.id = ids) :
    ids ⊆ ((groups m).flatMap fun d => own d ++ shared d).map CheckboxGroup.id := by
  obtain ⟨d, rest, first⟩ := List.exists_cons_of_ne_nil (groups_ne_nil m)
  rw [first, List.flatMap_cons, ← printed d]
  refine List.map_subset _ fun g hg => ?_
  exact List.mem_append_left _ (List.mem_append_right _ hg)

theorem ShortAffidavit.passages_subset_ids :
    passages.map ClauseTable.group ⊆ (document style m).checkboxGroups.map CheckboxGroup.id := by
  rw [checkboxGroups_document]
  exact Deponents.subset_ids_of_shared m _ (willGroups style m) fun _ => rfl

theorem AdministrationAffidavit.passages_subset_ids :
    passages.map ClauseTable.group ⊆ (document style m).checkboxGroups.map CheckboxGroup.id := by
  rw [checkboxGroups_document]
  exact Deponents.subset_ids_of_shared m _ (fun _ => familyGroups style m) fun _ => rfl

theorem DeliveryAffidavit.passages_subset_ids :
    passages.map ClauseTable.group ⊆ (document style m).checkboxGroups.map CheckboxGroup.id := by
  rw [checkboxGroups_document, List.map_append]
  exact List.subset_append_right _ _

theorem AssetsAffidavit.ids_checkboxGroups :
    (document style m).checkboxGroups.map CheckboxGroup.id = passages.map ClauseTable.group := by
  rw [checkboxGroups_document]
  rfl

theorem ChecklistLetter.ids_checkboxGroups :
    (document style m).checkboxGroups.map CheckboxGroup.id = passages.map ClauseTable.group := by
  rw [checkboxGroups_document]
  rfl

/-- Every passage is printed, with one exception. -/
theorem EstateModel.exists_printed {kind : DocumentKind} {t : ClauseTable EstateModel}
    (ht : t ∈ kind.passages) (always : t.group ≠ Notice.electronicWillCopy.group) :
    ∃ g ∈ (m.document style kind).checkboxGroups, g.id = t.group := by
  have named : t.group ∈ kind.passages.map ClauseTable.group := List.mem_map_of_mem ht
  rw [← List.mem_map]
  cases kind with
  | notice => exact Notice.group_mem_ids style m t ht always
  | submission => exact (Submission.ids_checkboxGroups style m).symm ▸ named
  | shortAffidavit => exact ShortAffidavit.passages_subset_ids style m named
  | administrationAffidavit => exact AdministrationAffidavit.passages_subset_ids style m named
  | deliveryAffidavit => exact DeliveryAffidavit.passages_subset_ids style m named
  | assetsAffidavit => exact (AssetsAffidavit.ids_checkboxGroups style m).symm ▸ named
  | registryCoverLetter => cases ht
  | filingChecklistLetter => exact (ChecklistLetter.ids_checkboxGroups style m).symm ▸ named

end Printed

/-! ## Clauses and boxes -/

instance (d : DocumentContent) (group box : String) : Decidable (d.Checks group box) :=
  inferInstanceAs (Decidable (∃ g ∈ d.checkboxGroups, g.id = group ∧ g.isChecked box = true))

/-- No passage carries the name of an independent box. -/
theorem DocumentKind.passage_not_independent (kind : DocumentKind) :
    ∀ t ∈ kind.passages, t.group ∉ DeliveryAffidavit.independentBoxes := by
  cases kind <;> decide

namespace EstateModel

variable (style : StyleProfile) (m : EstateModel) {kind : DocumentKind}
  {t : ClauseTable EstateModel}

/-- A document checks the box of a passage exactly if its table settles on the clause. -/
theorem checks_clause_iff (ht : t ∈ kind.passages)
    (always : t.group ≠ Notice.electronicWillCopy.group) (box : String) :
    (m.document style kind).Checks t.group box ↔ t.Settles m box := by
  obtain ⟨g, hg, named⟩ := exists_printed style m ht always
  rw [checks_iff style m ht (kind.passage_not_independent t ht) hg named,
    (kind.passages_exclusive m t ht).select_active_iff]

/-- A passage that is printed several times has the same box checked each time. -/
theorem checks_everywhere_iff (ht : t ∈ kind.passages)
    (always : t.group ≠ Notice.electronicWillCopy.group) (box : String) :
    (∀ g ∈ (m.document style kind).checkboxGroups, g.id = t.group → g.isChecked box = true) ↔
      (m.document style kind).Checks t.group box := by
  have independent := kind.passage_not_independent t ht
  obtain ⟨g, hg, named⟩ := exists_printed style m ht always
  constructor
  · intro everywhere
    exact ⟨g, hg, named, everywhere g hg named⟩
  · intro checks g' hg' named'
    rw [(shows_selected style m ht independent hg' named').isChecked_iff]
    exact ((checks_iff style m ht independent hg named box).mp checks).symm

end EstateModel

/-! ## Labels -/

/-- The labels of the boxes with an identifier, in the groups with an identifier. -/
def DocumentContent.labels (d : DocumentContent) (group box : String) : List String :=
  (d.checkboxGroups.filter (fun g => g.id == group)).flatMap fun g =>
    (g.options.filter (fun o => o.id == box)).map CheckboxOption.label

theorem Compose.map_label_passageGroup {Facts : Type} (style : StyleProfile)
    (t : ClauseTable Facts) (facts : Facts) (options : List (String × String))
    (caption : Option String) (box : String) :
    ((passageGroup style t facts options caption).options.filter (fun o => o.id == box)).map
        CheckboxOption.label =
      (options.filter (fun o => o.1 == box)).map Prod.snd := by
  simp only [passageGroup, choiceGroup, List.filter_map, List.map_map]
  rfl

/-- The labels of a passage that is printed once are those of its options. -/
theorem DocumentContent.labels_passage {Facts : Type} {d : DocumentContent} {style : StyleProfile}
    {t : ClauseTable Facts} {facts : Facts} {options : List (String × String)}
    {caption : Option String} {before after : List CheckboxGroup}
    (printed : d.checkboxGroups =
      before ++ Compose.passageGroup style t facts options caption :: after)
    (once : t.group ∉ (before ++ after).map CheckboxGroup.id) (box : String) :
    d.labels t.group box = (options.filter (fun o => o.1 == box)).map Prod.snd := by
  have other : ∀ gs : List CheckboxGroup, t.group ∉ gs.map CheckboxGroup.id →
      gs.filter (fun g => g.id == t.group) = [] := by
    intro gs absent
    refine List.filter_eq_nil_iff.mpr fun g hg same => absent ?_
    exact List.mem_map.mpr ⟨g, hg, eq_of_beq same⟩
  rw [List.map_append, List.mem_append, not_or] at once
  obtain ⟨left, right⟩ := once
  have own : ((Compose.passageGroup style t facts options caption).id == t.group) = true :=
    beq_self_eq_true t.group
  unfold labels
  rw [printed, List.filter_append, other before left, List.nil_append,
    List.filter_cons, if_pos own, other after right, List.flatMap_singleton,
    Compose.map_label_passageGroup]

end EstateFiling
