import EstateFiling.Proofs.Form.Affidavits
import EstateFiling.Proofs.Form.AssetsTables
import EstateFiling.Proofs.Form.Deliveries
import EstateFiling.Proofs.Form.Enclosures

/-!
# Lookups in the documents

In every document the sections have distinct identifiers, and so have the tables.  Groups of
boxes are repeated in the affidavits of applicants, one affidavit for each group of
deponents.  What is repeated is the same each time, since its wording depends on the
deponents only through whether they are several (`ShortAffidavit.willGroups_congr`), and the
boxes about one applicant are numbered and so not repeated (`Deponents.PrintsNumbered`).

So what a lookup finds does not depend on which occurrence comes first
(`EstateModel.lookups_unambiguous`).
-/

namespace EstateFiling

/-! ## Identifiers with a number -/

theorem Form.numberedId_injective (name : String) : Function.Injective (numberedId name) :=
  fun _ _ => numberedId_inj

/-- An identifier with a number is none under another name. -/
theorem Form.startsWith_numberedId {name other : String}
    (h : Text.apart (other ++ ".") (name ++ ".") = true) (k : Nat) :
    Text.startsWith (numberedId name k) (other ++ ".") = false := by
  refine Bool.eq_false_iff.mpr fun starts => ?_
  have apart := Text.after?_append_of_apart h (toString k)
  unfold Text.after? at apart
  rw [show name ++ "." ++ toString k = numberedId name k from rfl, if_pos starts] at apart
  cases apart

theorem Form.numberedId_ne {name other : String}
    (h : Text.apart (other ++ ".") (name ++ ".") = true) (j k : Nat) :
    numberedId other j ≠ numberedId name k := by
  intro same
  have starts : Text.startsWith (numberedId other j) (other ++ ".") = true :=
    Text.startsWith_append (other ++ ".") (toString j)
  rw [same, startsWith_numberedId h] at starts
  cases starts

theorem nodup_numberedIds (name : String) (n : Nat) :
    ((List.range n).map fun i => Form.numberedId name (i + 1)).Nodup :=
  List.nodup_range.map fun _ _ same => Nat.succ.inj (Form.numberedId_injective name same)

/-! ## Sections -/

section Documents

variable (style : StyleProfile) (m : EstateModel)

/-- Each affidavit is followed by its exhibit. -/
theorem ShortAffidavit.map_id_sections :
    (document style m).sections.map Section.id =
      (List.range m.affidavitCount).flatMap fun i =>
        [Form.numberedId "affidavit" (i + 1), Form.numberedId "exhibit_a" (i + 1)] := by
  have pairs := congrArg (List.map Prod.fst) (map_sections style m)
  rwa [List.map_map, List.map_flatMap] at pairs

theorem ShortAffidavit.affidavitId_ne_exhibitId (i j : Nat) :
    Form.numberedId "affidavit" i ≠ Form.numberedId "exhibit_a" j :=
  Form.numberedId_ne (by decide) i j

theorem ShortAffidavit.nodup_sectionIds : ((document style m).sections.map Section.id).Nodup := by
  have apart := affidavitId_ne_exhibitId
  rw [map_id_sections, List.nodup_flatMap]
  constructor
  · intro i _
    simp [apart]
  · -- Two affidavits have different numbers, and no affidavit is named like an exhibit.
    refine List.nodup_range.imp fun {i j} differ => ?_
    have other : ∀ name, Form.numberedId name (j + 1) ≠ Form.numberedId name (i + 1) :=
      fun name same => differ (Nat.succ.inj (Form.numberedId_injective name same)).symm
    simp [Function.onFun, other, apart, (apart _ _).symm]

theorem AdministrationAffidavit.nodup_sectionIds :
    ((document style m).sections.map Section.id).Nodup := by
  have ids : (document style m).sections.map Section.id =
      (List.range m.affidavitCount).map fun i => Form.numberedId "affidavit" (i + 1) := by
    have pairs := congrArg (List.map Prod.fst) (map_sections style m)
    rwa [List.map_map, List.map_map] at pairs
  rw [ids]
  exact nodup_numberedIds "affidavit" m.affidavitCount

theorem EstateModel.nodup_sectionIds (kind : DocumentKind) :
    ((m.document style kind).sections.map Section.id).Nodup := by
  cases kind with
  | notice => exact (by decide : ["header", "application", "applicants", "notices",
      "signatures"].Nodup)
  | submission =>
    have ids : (Submission.document style m).sections.map Section.id =
        if m.grantType.impliesWill then
          ["header", "part_1", "part_2", "part_3", "part_4", "signatures"]
        else ["header", "part_1", "part_2", "part_3", "signatures"] := by
      unfold Submission.document
      split <;> rfl
    show ((Submission.document style m).sections.map Section.id).Nodup
    rw [ids]
    split <;> decide
  | shortAffidavit => exact ShortAffidavit.nodup_sectionIds style m
  | administrationAffidavit => exact AdministrationAffidavit.nodup_sectionIds style m
  | deliveryAffidavit => exact (by decide : ["affidavit"].Nodup)
  | assetsAffidavit =>
    have ids : (AssetsAffidavit.document style m).sections.map Section.id =
        if m.assets.hasOutsideProperty then ["affidavit", "exhibit_a", "exhibit_b"]
        else ["affidavit", "exhibit_a"] := by
      unfold AssetsAffidavit.document
      split <;> rfl
    show ((AssetsAffidavit.document style m).sections.map Section.id).Nodup
    rw [ids]
    split <;> decide
  | registryCoverLetter => exact (by decide : ["letterhead", "body", "closing"].Nodup)
  | filingChecklistLetter => exact (by decide : ["letterhead", "signing", "delivery", "creditors",
      "certified_copies", "closing"].Nodup)

/-! ## Tables -/

theorem Notice.tables_document : (document style m).tables = [] := by
  have application : (application style m).tables = [] := by
    unfold Section.tables Notice.application
    rw [tablesOf_append, tablesOf_ite]
    exact ite_self ([] : List Table)
  have applicants : (applicants style m).tables = [] := by
    have blank : tablesOf ((Deponents.together m).membersOrBlank.mapIdx
        (applicantBlocks style)).flatten = [] :=
      filterMap_flatten_mapIdx_eq_nil (fun _ _ => rfl) _
    unfold Section.tables Notice.applicants
    rw [tablesOf_append, blank]
    rfl
  have notices : (notices style m).tables = [] := by
    unfold Section.tables Notice.notices
    rw [tablesOf_append, tablesOf_ite]
    exact ite_self ([] : List Table)
  have signatures : (signatures style m).tables = [] :=
    Compose.tablesOf_signatures style m.applicantNames "Signature of applicant"
  rw [DocumentContent.tables_eq]
  unfold document
  simp only [List.flatMap_cons, List.flatMap_nil, application, applicants, notices, signatures]
  rfl

theorem Submission.tables_document : (document style m).tables = [] := by
  have deceased : (deceasedPart style m).tables = [] := by
    unfold Section.tables deceasedPart
    simp only [tablesOf_append, Compose.tablesOf_enumerationOrNone]
    rfl
  have applicant : (applicantPart style m).tables = [] := by
    unfold Section.tables applicantPart
    rw [tablesOf_append, tablesOf_mapIdx fun _ _ => rfl]
    rfl
  have schedule : (schedulePart style m).tables = [] := by
    have plain : ∀ i list, tablesOf (scheduleList style i list) = [] := fun _ list =>
      Compose.tablesOf_enumerationOrNone style list.2
    exact filterMap_flatten_mapIdx_eq_nil plain (scheduleLists m)
  have signatures : (signatures style m).tables = [] :=
    Compose.tablesOf_signatures style m.applicantNames "Signature of applicant"
  rw [DocumentContent.tables_eq]
  unfold document
  split <;>
    simp only [List.flatMap_cons, List.flatMap_nil, List.flatMap_append, deceased, applicant,
      schedule, signatures] <;> rfl

theorem ShortAffidavit.tables_document : (document style m).tables = [] := by
  have affidavit : ∀ number d, (affidavit style m number d).tables = [] := by
    intro number d
    have standings : tablesOf (d.membersOrBlank.mapIdx (standingPassage style d)) = [] :=
      tablesOf_mapIdx (fun _ _ => rfl) _
    unfold Section.tables ShortAffidavit.affidavit
    simp only [tablesOf_append, tablesOf_breakBefore, standings, Compose.tablesOf_enumeration]
    rfl
  rw [DocumentContent.tables_eq, List.flatMap_eq_nil_iff]
  intro s hs
  obtain ⟨ss, hss, hs⟩ := List.mem_flatten.mp hs
  obtain ⟨i, _, rfl⟩ := List.mem_mapIdx.mp hss
  rcases List.mem_pair.mp hs with rfl | rfl
  · exact affidavit _ _
  · rfl

theorem AdministrationAffidavit.tables_document : (document style m).tables = [] := by
  rw [DocumentContent.tables_eq, List.flatMap_eq_nil_iff]
  intro s hs
  obtain ⟨i, hi, rfl⟩ := List.mem_mapIdx.mp hs
  generalize (Deponents.groups m)[i] = d
  have priorities : tablesOf (d.membersOrBlank.mapIdx (priorityPassage style m d)) = [] :=
    tablesOf_mapIdx (fun _ _ => rfl) _
  unfold Section.tables affidavit
  simp only [tablesOf_append, tablesOf_breakBefore, priorities, Compose.tablesOf_enumeration]
  rfl

theorem ChecklistLetter.tables_document :
    (document style m).tables = (creditors style m).tables := by
  have signing : (signing style m).tables = [] := by
    unfold Section.tables ChecklistLetter.signing
    split <;> rfl
  have closing : (Letter.closing style m).tables = [] :=
    Compose.tablesOf_signatures style m.applicantNames "Applicant"
  rw [DocumentContent.tables_eq]
  unfold document
  simp only [List.flatMap_cons, List.flatMap_nil, signing, closing, List.append_nil]
  exact List.append_nil (creditors style m).tables

theorem ChecklistLetter.nodup_tableIds : ((document style m).tables.map Table.id).Nodup := by
  have ids : (creditors style m).tables.map Table.id =
      if m.creditors.isEmpty then [] else ["creditors"] := by
    unfold Section.tables creditors
    split <;> rfl
  rw [ChecklistLetter.tables_document, ids]
  split <;> decide

theorem EstateModel.nodup_tableIds (kind : DocumentKind) :
    ((m.document style kind).tables.map Table.id).Nodup := by
  cases kind with
  | notice => exact (Notice.tables_document style m).symm ▸ List.nodup_nil
  | submission => exact (Submission.tables_document style m).symm ▸ List.nodup_nil
  | shortAffidavit => exact (ShortAffidavit.tables_document style m).symm ▸ List.nodup_nil
  | administrationAffidavit =>
    exact (AdministrationAffidavit.tables_document style m).symm ▸ List.nodup_nil
  | deliveryAffidavit =>
    show ((DeliveryAffidavit.document style m).tables.map Table.id).Nodup
    rw [DeliveryAffidavit.tables_document, List.map_map]
    refine List.Nodup.map (fun _ _ => DeliveryAffidavit.tableId_injective) ?_
    exact (by decide : DeliveryMethod.all.Nodup).filter _
  | assetsAffidavit => exact AssetsAffidavit.nodup_ids_document style m
  | registryCoverLetter =>
    show ((CoverLetter.document style m).tables.map Table.id).Nodup
    rw [CoverLetter.tables_document]
    exact List.nodup_singleton _
  | filingChecklistLetter => exact ChecklistLetter.nodup_tableIds style m

/-! ## Boxes -/

/-- The names under which the boxes about an applicant are numbered. -/
def Deponents.numberedNames : List String :=
  [ShortAffidavit.standing.group, AdministrationAffidavit.priority.group]

/-- Groups of boxes with the same identifier are equal, and those about an applicant do not
share one. -/
structure DocumentContent.BoxesApart (d : DocumentContent) : Prop where
  /-- Groups with the same identifier are equal. -/
  groups : KeyedApart CheckboxGroup.id d.checkboxGroups
  /-- Those about an applicant have distinct identifiers. -/
  numbered : ∀ name ∈ Deponents.numberedNames, ((d.numbered name).map CheckboxGroup.id).Nodup

theorem DocumentContent.boxesApart_of_nodup {d : DocumentContent}
    (distinct : (d.checkboxGroups.map CheckboxGroup.id).Nodup) : d.BoxesApart where
  groups := keyedApart_of_nodup distinct
  numbered _ _ := distinct.sublist (List.filter_sublist.map _)

/-- Each affidavit prints a group of boxes for each of its deponents, numbered under a name,
and after these the same groups as every other affidavit. -/
structure Deponents.PrintsNumbered (m : EstateModel) (d : DocumentContent) (name : String)
    (member : Nat → Applicant → CheckboxGroup) (shared : List CheckboxGroup) : Prop where
  /-- The boxes, affidavit by affidavit. -/
  printed : d.checkboxGroups = (groups m).flatMap fun e =>
    e.membersOrBlank.mapIdx (fun i a => member (e.firstIndex + i) a) ++ shared
  /-- Those about a member are numbered. -/
  named : ∀ k a, (member k a).id = Form.numberedId name k
  /-- The others have distinct identifiers. -/
  distinct : (shared.map CheckboxGroup.id).Nodup
  /-- None of these is numbered. -/
  plain : ∀ name ∈ numberedNames, ∀ id ∈ shared.map CheckboxGroup.id,
    Text.startsWith id (name ++ ".") = false

namespace Deponents.PrintsNumbered

variable {m} {d : DocumentContent} {name : String} {member : Nat → Applicant → CheckboxGroup}
  {shared : List CheckboxGroup} (h : PrintsNumbered m d name member shared)

include h

theorem numbered_eq (hname : name ∈ numberedNames) :
    d.numbered name = (together m).membersOrBlank.mapIdx fun i a => member (i + 1) a :=
  numbered_of_groups m member (fun _ => shared) _ h.printed h.named (fun _ => rfl)
    (h.plain name hname)

theorem nodup_numbered (hname : name ∈ numberedNames) :
    ((d.numbered name).map CheckboxGroup.id).Nodup := by
  rw [ids_of_numbered m (h.numbered_eq hname) h.named]
  exact nodup_numberedIds name _

/-- A group of boxes is about one applicant among all, or shared by the affidavits. -/
theorem subset_once : d.checkboxGroups ⊆
    ((together m).membersOrBlank.mapIdx fun i a => member (i + 1) a) ++ shared := by
  intro g hg
  rw [h.printed] at hg
  obtain ⟨e, he, hg⟩ := List.mem_flatMap.mp hg
  refine List.mem_append.mpr ((List.mem_append.mp hg).imp_left fun own => ?_)
  rw [← flatMap_numbered m member]
  exact List.mem_flatMap.mpr ⟨e, he, own⟩

/-- Without repetition the groups have distinct identifiers. -/
theorem nodup_once (hname : name ∈ numberedNames) :
    ((((together m).membersOrBlank.mapIdx fun i a => member (i + 1) a) ++ shared).map
      CheckboxGroup.id).Nodup := by
  rw [List.map_append, ids_of_numbered m rfl h.named]
  refine (nodup_numberedIds name _).append h.distinct (List.disjoint_left.mpr ?_)
  intro id own others
  obtain ⟨j, _, rfl⟩ := List.mem_map.mp own
  have starts := Text.startsWith_append (name ++ ".") (toString (j + 1))
  exact absurd starts (Bool.eq_false_iff.mp (h.plain name hname _ others))

/-- Under another name nothing is numbered. -/
theorem numbered_other {other : String} (hother : other ∈ numberedNames)
    (apart : Text.apart (other ++ ".") (name ++ ".") = true) : d.numbered other = [] := by
  refine List.filter_eq_nil_iff.mpr fun g hg => Bool.eq_false_iff.mp ?_
  rcases List.mem_append.mp (h.subset_once hg) with own | common
  · obtain ⟨i, _, rfl⟩ := List.mem_mapIdx.mp own
    rw [h.named]
    exact Form.startsWith_numberedId apart (i + 1)
  · exact h.plain other hother _ (List.mem_map_of_mem common)

theorem boxesApart (hname : name ∈ numberedNames)
    (apart : ∀ other ∈ numberedNames, other ≠ name →
      Text.apart (other ++ ".") (name ++ ".") = true) : d.BoxesApart where
  groups := (keyedApart_of_nodup (h.nodup_once hname)).subset h.subset_once
  numbered other hother := by
    by_cases same : other = name
    · subst same
      exact h.nodup_numbered hother
    · rw [h.numbered_other hother (apart other hother same)]
      exact List.nodup_nil

end Deponents.PrintsNumbered

/-- The boxes about the will depend on the deponents only through whether they are
several. -/
theorem ShortAffidavit.willGroups_congr {d e : Deponents} (same : d.isJoint = e.isJoint) :
    willGroups style m d = willGroups style m e := by
  unfold willGroups recitalOptions codicilOptions Deponents.pronoun Deponents.be
  rw [same]

theorem ShortAffidavit.printsNumbered {d : Deponents} (hd : d ∈ Deponents.groups m) :
    Deponents.PrintsNumbered m (document style m) standing.group (numberedStanding style m)
      (willGroups style m d) where
  printed := by
    -- All groups are joint or none is, so each prints what `d` prints.
    rw [checkboxGroups_numbered]
    refine List.flatMap_congr fun e he => ?_
    rw [willGroups_congr style m ((Deponents.isJoint_of_mem he).trans
      (Deponents.isJoint_of_mem hd).symm)]
  named _ _ := rfl
  distinct := DocumentKind.shortAffidavit.passages_nodup
  plain := (by decide : ∀ name ∈ Deponents.numberedNames, ∀ id ∈ passages.map ClauseTable.group,
    Text.startsWith id (name ++ ".") = false)

theorem AdministrationAffidavit.printsNumbered :
    Deponents.PrintsNumbered m (document style m) priority.group (numberedPriority style m)
      (familyGroups style m) where
  printed := checkboxGroups_document style m
  named _ _ := rfl
  distinct := DocumentKind.administrationAffidavit.passages_nodup
  plain := (by decide : ∀ name ∈ Deponents.numberedNames, ∀ id ∈ passages.map ClauseTable.group,
    Text.startsWith id (name ++ ".") = false)

theorem Notice.nodup_groupIds :
    ((document style m).checkboxGroups.map CheckboxGroup.id).Nodup := by
  rw [checkboxGroups_document]
  split
  · exact (by decide : ["will_basis", "electronic_will_copy", "service_address",
      "indigenous_notice"].Nodup)
  · exact (by decide : ["will_basis", "service_address", "indigenous_notice"].Nodup)

theorem DeliveryAffidavit.nodup_groupIds :
    ((document style m).checkboxGroups.map CheckboxGroup.id).Nodup := by
  have ids : (document style m).checkboxGroups.map CheckboxGroup.id =
      ["delivery_postal", "delivery_personal", "delivery_electronic"]
        ++ (if m.deliveriesBy .electronic = [] then [] else ["electronic_acknowledged"])
        ++ ["will_copy", "electronic_will_demand"] := by
    rw [checkboxGroups_document]
    by_cases undelivered : m.deliveriesBy .electronic = [] <;>
      simp [undelivered, DeliveryMethod.all, methodGroups, acknowledgementGroup, boxId,
        Compose.checkboxGroup, Compose.passageGroup, Compose.choiceGroup, willCopy,
        electronicWillDemand]
  rw [ids]
  split <;> decide

theorem EstateModel.boxesApart (kind : DocumentKind) :
    (m.document style kind).BoxesApart := by
  cases kind with
  | notice => exact DocumentContent.boxesApart_of_nodup (Notice.nodup_groupIds style m)
  | submission =>
    refine DocumentContent.boxesApart_of_nodup ?_
    exact (Submission.ids_checkboxGroups style m).symm ▸ DocumentKind.submission.passages_nodup
  | shortAffidavit =>
    obtain ⟨d, hd⟩ := List.exists_mem_of_ne_nil _ (Deponents.groups_ne_nil m)
    exact (ShortAffidavit.printsNumbered style m hd).boxesApart (by decide) (by decide)
  | administrationAffidavit =>
    exact (AdministrationAffidavit.printsNumbered style m).boxesApart (by decide) (by decide)
  | deliveryAffidavit =>
    exact DocumentContent.boxesApart_of_nodup (DeliveryAffidavit.nodup_groupIds style m)
  | assetsAffidavit =>
    refine DocumentContent.boxesApart_of_nodup ?_
    exact (AssetsAffidavit.ids_checkboxGroups style m).symm ▸
      DocumentKind.assetsAffidavit.passages_nodup
  | registryCoverLetter =>
    refine DocumentContent.boxesApart_of_nodup ?_
    exact (CoverLetter.checkboxGroups_document style m).symm ▸ List.nodup_nil
  | filingChecklistLetter =>
    refine DocumentContent.boxesApart_of_nodup ?_
    exact (ChecklistLetter.ids_checkboxGroups style m).symm ▸
      DocumentKind.filingChecklistLetter.passages_nodup

end Documents

/-! ## Lookups -/

/-- Lookups in a document are unambiguous: each occurrence is what its identifier finds, and
what an identifier finds does not depend on the order. -/
structure DocumentContent.Unambiguous (d : DocumentContent) : Prop where
  /-- The sections have distinct identifiers. -/
  sections : (d.sections.map Section.id).Nodup
  /-- So have the tables. -/
  tables : (d.tables.map Table.id).Nodup
  /-- Groups of boxes with the same identifier are equal. -/
  groups : ∀ g ∈ d.checkboxGroups, ∀ h ∈ d.checkboxGroups, g.id = h.id → g = h
  /-- The groups about an applicant have distinct identifiers. -/
  numbered : ∀ name ∈ ["applicant_standing", "priority"],
    ((d.numbered name).map CheckboxGroup.id).Nodup
  /-- Each section, table or group is found. -/
  found : (∀ s ∈ d.sections, d.section? s.id = some s) ∧ (∀ t ∈ d.tables, d.table? t.id = some t)
    ∧ ∀ g ∈ d.checkboxGroups, d.checkboxGroup? g.id = some g
  /-- In another order the same is found. -/
  reordered : ∀ (e : DocumentContent) (id : String),
    (e.sections.Perm d.sections → e.section? id = d.section? id)
    ∧ (e.tables.Perm d.tables → e.table? id = d.table? id)
    ∧ (e.checkboxGroups.Perm d.checkboxGroups → e.checkboxGroup? id = d.checkboxGroup? id)

/-- In every document the lookups are unambiguous. -/
theorem EstateModel.lookups_unambiguous (m : EstateModel) (style : StyleProfile)
    (kind : DocumentKind) : (m.document style kind).Unambiguous :=
  have distinct := nodup_sectionIds style m kind
  have sections := keyedApart_of_nodup distinct
  have tables := keyedApart_of_nodup (nodup_tableIds style m kind)
  have boxes := boxesApart style m kind
  { sections := distinct
    tables := nodup_tableIds style m kind
    groups := boxes.groups
    numbered := boxes.numbered
    found := ⟨fun _ => sections.find?_eq_of_mem, fun _ => tables.find?_eq_of_mem,
      fun _ => boxes.groups.find?_eq_of_mem⟩
    reordered := fun _ id => ⟨fun order => sections.find?_eq_of_perm order id,
      fun order => tables.find?_eq_of_perm order id,
      fun order => boxes.groups.find?_eq_of_perm order id⟩ }

end EstateFiling
