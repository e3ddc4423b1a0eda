import EstateFiling.Proofs.Form.Affidavits

/-!
# What an affidavit says of the spouse

The affidavit of an applicant without a will speaks of the spouse twice: where it says why each
applicant has priority, and where it says what is known of the spouse.  For a child that applies
the first goes by whether the spouse survives, yes or no; the second also leaves open what is
not stated.

So the two agree where the spouse survives, and where it is stated that there is none.  Where
nothing is stated, a child swears that the deceased left no surviving spouse, in an affidavit
that leaves the spouse open (`childOfUnstated_contradicts`); this is the only contradiction
(`EstateModel.affidavit_agrees_on_spouse`).
-/

namespace EstateFiling

/-- The groups with an identifier, of which there are some, have one box checked. -/
structure DocumentContent.ChecksOnly (d : DocumentContent) (group box : String) : Prop where
  /-- There is a group. -/
  printed : ∃ g ∈ d.checkboxGroups, g.id = group
  /-- In each group the box is the checked one. -/
  checked : ∀ g ∈ d.checkboxGroups, g.id = group → g.checked.map CheckboxOption.id = [box]

/-- One of the groups that are numbered under a name has a box checked. -/
def DocumentContent.ChecksNumbered (d : DocumentContent) (name box : String) : Prop :=
  ∃ k, d.Checks (Form.numberedId name k) box

/-- A passage has the box checked that its table selects. -/
theorem EstateModel.checksOnly_iff (style : StyleProfile) (m : EstateModel) {kind : DocumentKind}
    {t : ClauseTable EstateModel} (ht : t ∈ kind.passages)
    (always : t.group ≠ Notice.electronicWillCopy.group) (box : String) :
    (m.document style kind).ChecksOnly t.group box ↔ (t.select m).active = box := by
  have independent := kind.passage_not_independent t ht
  obtain ⟨g, hg, named⟩ := exists_printed style m ht always
  constructor
  · intro only
    have checked := only.checked g hg named
    rw [(shows_selected style m ht independent hg named).checked] at checked
    exact List.singleton_inj.mp checked
  · rintro rfl
    exact ⟨⟨g, hg, named⟩,
      fun g hg named => (shows_selected style m ht independent hg named).checked⟩

/-- The box for what is known of the spouse. -/
def SpouseStatus.box : SpouseStatus → String
  | .surviving => "surviving"
  | .deceased => "deceased"
  | .neverMarried => "never_married"
  | .unspecified => "unknown"

namespace AdministrationAffidavit

variable (style : StyleProfile) (m : EstateModel)

/-! ## The boxes about the spouse -/

theorem active_spouseStatus : (spouseStatus.select m).active = m.family.spouse.status.box := by
  cases stated : m.family.spouse.status <;>
    simp [ClauseTable.select, ClauseTable.matching, spouseStatus, stated, SpouseStatus.box]

theorem checksOnly_spouseStatus_iff (box : String) :
    (document style m).ChecksOnly "spouse_status" box ↔ m.family.spouse.status.box = box := by
  rw [← active_spouseStatus]
  have printed : spouseStatus ∈ DocumentKind.administrationAffidavit.passages :=
    List.mem_cons_self
  exact m.checksOnly_iff style printed (by decide) box

/-! ## The boxes about an applicant -/

/-- The boxes with a number are those of the applicant in this position. -/
theorem mem_numbered_iff {g : CheckboxGroup} {k : Nat} :
    (g ∈ (document style m).checkboxGroups ∧ g.id = Form.numberedId "priority" k) ↔
      ∃ i a, k = i + 1 ∧ (Deponents.together m).membersOrBlank[i]? = some a
        ∧ g = numberedPriority style m k a := by
  constructor
  · rintro ⟨hg, named⟩
    have numbered : g ∈ (document style m).numbered "priority" := by
      refine List.mem_filter.mpr ⟨hg, ?_⟩
      rw [named]
      exact Text.startsWith_append _ _
    rw [numbered_document] at numbered
    obtain ⟨i, hi, rfl⟩ := List.mem_mapIdx.mp numbered
    obtain rfl : i + 1 = k := Form.numberedId_inj named
    exact ⟨i, _, rfl, List.getElem?_eq_getElem hi, rfl⟩
  · rintro ⟨i, a, rfl, ha, rfl⟩
    obtain ⟨hi, rfl⟩ := List.getElem?_eq_some_iff.mp ha
    have numbered : numberedPriority style m (i + 1) _ ∈ (document style m).numbered "priority" :=
      numbered_document style m ▸ List.mem_mapIdx.mpr ⟨i, hi, rfl⟩
    exact ⟨(List.mem_filter.mp numbered).1, rfl⟩

/-- A box about the priority of an applicant is checked for the clause that is selected. -/
theorem checks_priority_iff {k : Nat} {box : String} :
    (document style m).Checks (Form.numberedId "priority" k) box ↔
      ∃ i a, k = i + 1 ∧ (Deponents.together m).membersOrBlank[i]? = some a
        ∧ (priority.select (PriorityFacts.of m a)).active = box := by
  have checked : ∀ a, (numberedPriority style m k a).isChecked box = true ↔
      (priority.select (PriorityFacts.of m a)).active = box := fun a =>
    ((numberedPriority_isAbout style m k a).shows.isChecked_iff box).trans eq_comm
  constructor
  · rintro ⟨g, hg, named, checks⟩
    obtain ⟨i, a, position, ha, rfl⟩ := (mem_numbered_iff style m).mp ⟨hg, named⟩
    exact ⟨i, a, position, ha, (checked a).mp checks⟩
  · rintro ⟨i, a, position, ha, active⟩
    obtain ⟨hg, named⟩ := (mem_numbered_iff style m).mpr ⟨i, a, position, ha, rfl⟩
    exact ⟨_, hg, named, (checked a).mpr active⟩

theorem active_priority_surviving_iff (a : Applicant) :
    (priority.select (PriorityFacts.of m a)).active = "child_with_surviving_spouse" ↔
      a.relationship = .child ∧ m.family.spouse.status = .surviving := by
  rw [(priority_exclusive _).select_active_iff]
  simp [ClauseTable.Settles, priority, PriorityFacts.of]

theorem active_priority_without_iff (a : Applicant) :
    (priority.select (PriorityFacts.of m a)).active = "child_without_spouse" ↔
      a.relationship = .child ∧ m.family.spouse.status ≠ .surviving := by
  rw [(priority_exclusive _).select_active_iff]
  simp [ClauseTable.Settles, priority, PriorityFacts.of]

/-- Who takes the place of a missing applicant is nobody's child. -/
theorem mem_membersOrBlank_iff {a : Applicant} (child : a.relationship = .child) :
    a ∈ (Deponents.together m).membersOrBlank ↔ a ∈ m.applicants := by
  by_cases nobody : m.applicants = []
  · have blank : (Deponents.together m).membersOrBlank = [{}] := by
      rw [Deponents.membersOrBlank_together, nobody]
      rfl
    rw [blank, nobody, List.mem_singleton]
    exact iff_of_false (fun same => by rw [same] at child; cases child) List.not_mem_nil
  · rw [Deponents.membersOrBlank_of_ne_nil nobody]
    rfl

/-- A box that is for children only is checked if it is for a child who applies. -/
theorem checksNumbered_priority_iff {box : String} {p : Prop}
    (selected : ∀ a, (priority.select (PriorityFacts.of m a)).active = box ↔
      a.relationship = .child ∧ p) :
    (document style m).ChecksNumbered "priority" box ↔
      (∃ a ∈ m.applicants, a.relationship = .child) ∧ p := by
  unfold DocumentContent.ChecksNumbered
  simp only [checks_priority_iff, selected]
  constructor
  · rintro ⟨_, i, a, rfl, ha, child, hp⟩
    exact ⟨⟨a, (mem_membersOrBlank_iff m child).mp (List.mem_of_getElem? ha), child⟩, hp⟩
  · rintro ⟨⟨a, ha, child⟩, hp⟩
    obtain ⟨i, ha⟩ := List.mem_iff_getElem?.mp ((mem_membersOrBlank_iff m child).mpr ha)
    exact ⟨i + 1, i, a, rfl, ha, child, hp⟩

end AdministrationAffidavit

/-! ## Both passages -/

open AdministrationAffidavit in
/-- Where a child applies beside a surviving spouse the affidavit says that the spouse survives,
and where a child swears that there is none it never does.  That it then says that the spouse
died or never was holds exactly if something is stated of the spouse or no child applies. -/
theorem EstateModel.affidavit_agrees_on_spouse (m : EstateModel) (style : StyleProfile) :
    ((m.document style .administrationAffidavit).ChecksNumbered "priority"
        "child_with_surviving_spouse" →
      (m.document style .administrationAffidavit).ChecksOnly "spouse_status" "surviving")
    ∧ ((m.document style .administrationAffidavit).ChecksNumbered "priority"
        "child_without_spouse" →
      ∃ box ∈ ["deceased", "never_married", "unknown"],
        (m.document style .administrationAffidavit).ChecksOnly "spouse_status" box)
    ∧ (((m.document style .administrationAffidavit).ChecksNumbered "priority"
        "child_without_spouse" →
      ∃ box ∈ ["deceased", "never_married"],
        (m.document style .administrationAffidavit).ChecksOnly "spouse_status" box) ↔
      (m.family.spouse.status = .unspecified → ∀ a ∈ m.applicants, a.relationship ≠ .child)) := by
  have beside := checksNumbered_priority_iff style m (active_priority_surviving_iff m)
  have without := checksNumbered_priority_iff style m (active_priority_without_iff m)
  have only := checksOnly_spouseStatus_iff style m
  simp only [EstateModel.document, beside, without, only]
  refine ⟨?surviving, ?apart, fun agree unstated a ha child => ?unstated, fun stated => ?stated⟩
  case surviving =>
    rintro ⟨_, surviving⟩
    rw [surviving]
    rfl
  case apart =>
    rintro ⟨_, apart⟩
    cases status : m.family.spouse.status with
    | surviving => exact absurd status apart
    | deceased | neverMarried | unspecified => exact ⟨_, by decide, rfl⟩
  case unstated =>
    rw [unstated] at agree
    obtain ⟨_, hbox, rfl⟩ := agree ⟨⟨a, ha, child⟩, by decide⟩
    exact absurd hbox (by decide)
  case stated =>
    rintro ⟨⟨a, ha, child⟩, apart⟩
    cases status : m.family.spouse.status with
    | surviving => exact absurd status apart
    | unspecified => exact absurd child (stated status a ha)
    | deceased | neverMarried => exact ⟨_, by decide, rfl⟩

/-- A child applies, and nothing is stated of a spouse. -/
def childOfUnstated : EstateModel where
  grantType := .administrationWithoutWill
  applicants := [{ relationship := .child }]

/-- The child swears that the deceased left no surviving spouse, and the affidavit leaves open
whether there is one. -/
theorem childOfUnstated_contradicts :
    (childOfUnstated.document .standard .administrationAffidavit).Checks "priority.1"
        "child_without_spouse"
    ∧ (childOfUnstated.document .standard .administrationAffidavit).ChecksOnly "spouse_status"
        "unknown" :=
  ⟨(AdministrationAffidavit.checks_priority_iff .standard childOfUnstated (k := 1)).mpr
      ⟨0, _, rfl, rfl, by decide⟩,
    (AdministrationAffidavit.checksOnly_spouseStatus_iff .standard childOfUnstated _).mpr rfl⟩

end EstateFiling
