import EstateFiling.Proofs.Document.Points
import EstateFiling.Proofs.Form.CheckedBoxes
import EstateFiling.Proofs.Text.Trimming

/-!
# Beneficiaries on the forms

Where each record of a beneficiary ends up.  The type of a record, compared without regard
to case and with underscores for blanks and hyphens, puts it in one of four lists: spouses,
children, intestate successors, and all others.  Together the lists are the records again
(`CaseBundle.tagged_perm`).  Unless the family is entered by hand, the family of the estate
is made of these lists (`CaseBundle.family_eq`).

The schedule of the submission has six points, each a caption and a list
(`Submission.points_schedulePart`).  The affidavit without a will names the children under
one caption and the successors under another (`AdministrationAffidavit.under?_peopleList`),
and checks the boxes that go with them.  So both forms print the same people in the same order
(`CaseBundle.FamilyOnRecord.onSchedule`, `CaseBundle.FamilyOnRecord.inAffidavit`).
-/

namespace EstateFiling

/-! ## Records by type -/

namespace BeneficiaryRecord

/-- The type of a record as it is compared. -/
def tag (r : BeneficiaryRecord) : String :=
  Text.replaceChars (fun c => c == ' ' || c == '-') '_' (Text.lower (Field.text r.kind))

/-- The types of spouses. -/
def spouseTags : List String := ["spouse"]

/-- The types of children. -/
def childTags : List String := ["child", "stepchild", "step_child"]

/-- The types of intestate successors. -/
def successorTags : List String := ["intestate_successor", "successor"]

/-- The types of the family. -/
def familyTags : List String := spouseTags ++ childTags ++ successorTags

theorem placement_eq (r : BeneficiaryRecord) :
    r.placement =
      if r.tag ∈ spouseTags then .spouse
      else if r.tag ∈ childTags then .child
      else if r.tag ∈ successorTags then .intestateSuccessor
      else .other := by
  unfold placement tag
  split <;> simp_all [spouseTags, childTags, successorTags]

theorem placement_spouse_iff (r : BeneficiaryRecord) :
    r.placement = .spouse ↔ r.tag ∈ spouseTags := by
  rw [placement_eq]
  split_ifs <;> simp_all

theorem placement_child_iff (r : BeneficiaryRecord) :
    r.placement = .child ↔ r.tag ∈ childTags := by
  have apart : ∀ tag ∈ spouseTags, tag ∉ childTags := by decide
  have own := apart r.tag
  rw [placement_eq]
  split_ifs <;> simp_all

theorem placement_successor_iff (r : BeneficiaryRecord) :
    r.placement = .intestateSuccessor ↔ r.tag ∈ successorTags := by
  have apart : ∀ tag ∈ spouseTags ++ childTags, tag ∉ successorTags := by decide
  have own := apart r.tag
  rw [placement_eq]
  split_ifs <;> simp_all

theorem placement_other_iff (r : BeneficiaryRecord) :
    r.placement = .other ↔ r.tag ∉ familyTags := by
  rw [placement_eq, familyTags]
  split_ifs <;> simp_all

/-- The status of a record says that the person has died. -/
def HasDied (r : BeneficiaryRecord) : Prop :=
  Text.lower (Field.text r.status) ∈ ["deceased", "predeceased", "died"]

instance (r : BeneficiaryRecord) : Decidable r.HasDied :=
  inferInstanceAs (Decidable (_ ∈ _))

theorem isSurviving_eq (r : BeneficiaryRecord) : r.isSurviving = !decide r.HasDied := by
  unfold isSurviving HasDied
  split <;> simp_all

end BeneficiaryRecord

/-- A list by kinds: each element is in the list of its kind. -/
theorem flatMap_filter_perm {α κ : Type} [DecidableEq κ] (kind : α → κ) (xs : List α)
    {ks : List κ} (distinct : ks.Nodup) :
    (ks.flatMap fun k => xs.filter fun x => kind x = k).Perm
      (xs.filter fun x => kind x ∈ ks) := by
  induction ks with
  | nil => simp
  | cons k ks ih =>
    obtain ⟨new, distinct⟩ := List.nodup_cons.mp distinct
    have parts := List.filter_append_perm (fun x => decide (kind x = k))
      (xs.filter fun x => kind x ∈ k :: ks)
    have own : ∀ x, (decide (kind x = k) && decide (kind x ∈ k :: ks)) = decide (kind x = k) := by
      intro x
      by_cases h : kind x = k <;> simp [h]
    have rest : ∀ x, (!decide (kind x = k) && decide (kind x ∈ k :: ks)) =
        decide (kind x ∈ ks) := by
      intro x
      by_cases h : kind x = k <;> simp [h, new]
    rw [List.filter_filter, List.filter_filter] at parts
    simp only [own, rest] at parts
    exact ((ih distinct).append_left _).trans parts

namespace CaseBundle

open BeneficiaryRecord

variable (b : CaseBundle)

/-- The records with one of some types, in their order. -/
def tagged (tags : List String) : List BeneficiaryRecord :=
  b.beneficiaries.filter fun r => r.tag ∈ tags

/-- The records of people who are not family, in their order. -/
def notFamily : List BeneficiaryRecord :=
  b.beneficiaries.filter fun r => r.tag ∉ familyTags

theorem tagged_spouse :
    b.beneficiaries.filter (fun r => r.placement = .spouse) = b.tagged spouseTags := by
  simp only [placement_spouse_iff, tagged]

theorem tagged_child :
    b.beneficiaries.filter (fun r => r.placement = .child) = b.tagged childTags := by
  simp only [placement_child_iff, tagged]

theorem tagged_successor :
    b.beneficiaries.filter (fun r => r.placement = .intestateSuccessor) =
      b.tagged successorTags := by
  simp only [placement_successor_iff, tagged]

theorem notFamily_eq :
    b.beneficiaries.filter (fun r => r.placement = .other) = b.notFamily := by
  simp only [placement_other_iff, notFamily]

/-- Each record is in one of the lists, once. -/
theorem tagged_perm :
    (b.tagged spouseTags ++ b.tagged childTags ++ b.tagged successorTags ++ b.notFamily).Perm
      b.beneficiaries := by
  have distinct : [BeneficiaryKind.spouse, .child, .intestateSuccessor, .other].Nodup := by
    decide
  have kinds := flatMap_filter_perm BeneficiaryRecord.placement b.beneficiaries distinct
  have every : ∀ kind : BeneficiaryKind,
      kind ∈ [BeneficiaryKind.spouse, .child, .intestateSuccessor, .other] := by
    intro kind
    cases kind <;> decide
  simp only [List.flatMap_cons, List.flatMap_nil, tagged_spouse, tagged_child, tagged_successor,
    notFamily_eq, every, decide_true, List.filter_true, List.append_nil] at kinds
  simpa only [List.append_assoc] using kinds

/-! ## The family on record -/

/-- Nothing is entered by hand under a name of the family. -/
def FamilyOnRecord : Prop :=
  ∀ key, Text.startsWith key "family." = true → b.overrides.get? key = none

variable {b}

/-- Then the family is that of the records. -/
theorem FamilyOnRecord.family_eq (h : b.FamilyOnRecord) :
    b.family = Family.ofRecords b.beneficiaries b.payload? := by
  have status := h "family.spouse.status" (by decide)
  have name := h "family.spouse.name" (by decide)
  have children := h "family.children" (by decide)
  have others := h "family.other_beneficiaries" (by decide)
  have successors := h "family.intestate_successors" (by decide)
  simp [family, ManualOverrides.value?, ManualOverrides.text?, status, name, children, others,
    successors]

theorem FamilyOnRecord.children_eq (h : b.FamilyOnRecord) :
    b.family.children = (b.tagged childTags).map familyMember := by
  rw [h.family_eq, ← tagged_child]
  rfl

theorem FamilyOnRecord.otherBeneficiaries_eq (h : b.FamilyOnRecord) :
    b.family.otherBeneficiaries = b.notFamily.map familyMember := by
  rw [h.family_eq, ← notFamily_eq]
  rfl

theorem FamilyOnRecord.intestateSuccessors_eq (h : b.FamilyOnRecord) :
    b.family.intestateSuccessors = (b.tagged successorTags).map successor := by
  rw [h.family_eq, ← tagged_successor]
  rfl

end CaseBundle

/-! ## Entries -/

namespace BeneficiaryRecord

variable (r : BeneficiaryRecord)

/-- The name of a record, with a note if the person has died. -/
def entry (note : String) : String :=
  Filler.orDots (Field.text r.fullName) 30 ++ (if r.HasDied then note else "")

/-- A successor on the schedule. -/
def scheduleEntry : String :=
  Field.text r.fullName
    ++ (if Field.text r.relationship = "" then "" else " (" ++ Field.text r.relationship ++ ")")

/-- A successor in the affidavit. -/
def affidavitEntry : String :=
  Filler.orDots (Field.text r.fullName) 30
    ++ (if Field.text r.relationship = "" then "" else ", " ++ Field.text r.relationship)

theorem entry_eq (note : String) :
    r.entry note =
      Filler.orDots (Field.text r.fullName) 30 ++ (if r.isSurviving then "" else note) := by
  unfold entry
  rw [isSurviving_eq]
  by_cases died : r.HasDied <;> simp [died]

theorem memberEntry_familyMember :
    Submission.memberEntry r.familyMember = r.entry " (deceased)" := by
  rw [entry_eq, Submission.memberEntry, familyMember]

theorem childEntry_familyMember :
    AdministrationAffidavit.childEntry r.familyMember =
      r.entry " (predeceased the deceased)" := by
  rw [entry_eq, AdministrationAffidavit.childEntry, familyMember]

theorem spouseEntries_spouse :
    Submission.spouseEntries r.spouse = [r.entry " (deceased)"] := by
  rw [entry_eq, Submission.spouseEntries, spouse]
  cases r.isSurviving <;> simp

theorem successorEntry_successor :
    Submission.successorEntry r.successor = r.scheduleEntry := by
  unfold Submission.successorEntry scheduleEntry successor
  by_cases named : Field.text r.relationship = "" <;> simp [named, String.append_assoc]

theorem sworn_successorEntry_successor :
    AdministrationAffidavit.successorEntry r.successor = r.affidavitEntry := by
  have trimmed : Text.trim (Field.text r.relationship) = Field.text r.relationship :=
    Text.trim_trim _
  unfold AdministrationAffidavit.successorEntry affidavitEntry successor
  rw [trimmed]
  by_cases named : Field.text r.relationship = "" <;> simp [named]

end BeneficiaryRecord

open BeneficiaryRecord in
/-- The spouse on the schedule is the first on record. -/
theorem CaseBundle.FamilyOnRecord.spouseEntries_eq {b : CaseBundle} (h : b.FamilyOnRecord) :
    Submission.spouseEntries b.family.spouse =
      (b.tagged spouseTags).head?.toList.map (entry · " (deceased)") := by
  rw [h.family_eq, Family.ofRecords]
  simp only [tagged_spouse]
  cases b.tagged spouseTags with
  | nil => cases saysNeverMarried b.payload? <;> rfl
  | cons r rest => exact r.spouseEntries_spouse

/-! ## The schedule of the submission -/

namespace Submission

variable (style : StyleProfile) (m : EstateModel)

/-- A caption with a number and the list under it. -/
def point (number caption : String) (entries : List String) : List Line :=
  ⟨some number, caption⟩ :: listed entries

theorem isPoint_point (n : Nat) (caption : String) (entries : List String) :
    IsPoint (point (toString n ++ ".") caption entries) :=
  ⟨isNumber_toString_append n ".", isCaption_of_mem_listed⟩

/-- The word for an empty list stands under a caption without an entry. -/
theorem noneLine_mem_point_iff (number caption : String) (entries : List String) :
    noneLine ∈ point number caption entries ↔
      ∀ l ∈ (point number caption entries).tail, l.mark = none := by
  have notCaption : noneLine ≠ ⟨some number, caption⟩ :=
    fun same => Option.some_ne_none _ (congrArg Line.mark same).symm
  rw [point, List.mem_cons, or_iff_right notCaption]
  exact noneLine_mem_listed_iff

/-- The schedule has a point for each list. -/
theorem points_schedulePart :
    (schedulePart style m).points =
      (scheduleLists m).mapIdx fun i list => point (toString (i + 1) ++ ".") list.1 list.2 := by
  have read : (schedulePart style m).read =
      ((scheduleLists m).mapIdx fun i list =>
        point (toString (i + 1) ++ ".") list.1 list.2).flatten := by
    unfold Section.read schedulePart
    rw [List.filterMap_flatten, map_mapIdx]
    simp [scheduleList, point]
  unfold Section.points
  rw [read]
  refine pointsOf_flatten fun p hp => ?_
  obtain ⟨i, _, rfl⟩ := List.mem_mapIdx.mp hp
  exact isPoint_point (i + 1) _ _

theorem section?_schedule (h : m.grantType.impliesWill = true) :
    (document style m).section? "part_4" = some (schedulePart style m) := by
  unfold document DocumentContent.section?
  rw [if_pos h]
  rfl

end Submission

/-! ## Affidavits as they read -/

namespace Form

variable (style : StyleProfile) (m : EstateModel) (d : Deponents)

/-- How an affidavit opens, as it reads: no line has a number. -/
@[simp] theorem lines_affidavitOpening (form title : String) :
    (affidavitOpening style m form title d).filterMap Block.line? =
      ["Form " ++ form ++ " (" ++ "Rule 25-3 (2)" ++ ")",
        "IN THE SUPREME COURT OF BRITISH COLUMBIA",
        "IN THE MATTER OF THE ESTATE OF " ++ Text.upper (deceasedName m) ++ ", DECEASED", title,
        d.introduction].map (Line.mk none) := by
  simp [affidavitOpening, courtCaption, reference]

@[simp] theorem line?_affidavitClose : (affidavitClose style d).line? = none := rfl

@[simp] theorem lines_breakBefore (number : Nat) :
    (if 1 < number then [Block.pageBreak] else []).filterMap Block.line? = [] := by
  split <;> rfl

end Form

/-! ## The affidavit without a will -/

namespace AdministrationAffidavit

variable (style : StyleProfile) (m : EstateModel) (number : Nat) (d : Deponents)

@[simp] theorem lines_priorities :
    (d.membersOrBlank.mapIdx (priorityPassage style m d)).filterMap Block.line? = [] :=
  filterMap_mapIdx_eq_nil (fun _ _ => rfl) _

/-- A list of people in the affidavit. -/
structure PeopleList where
  /-- The number of its caption. -/
  number : String
  /-- The caption. -/
  caption : String
  /-- The entries. -/
  entries : List String
  /-- The number of the paragraph behind the list. -/
  next : String

/-- The lists of the family. -/
def peopleLists : List PeopleList :=
  [⟨"5.", "As to the children of the deceased:", m.family.children.map childEntry, "6."⟩,
    ⟨"6.", "As to the intestate successors of the deceased:",
      m.family.intestateSuccessors.map successorEntry, "7."⟩]

/-- From the number of a list on, the affidavit reads its caption, its entries with letters,
and then on from the number behind them. -/
theorem lines_from_peopleList {l : PeopleList} (hl : l ∈ peopleLists m) :
    (affidavit style m number d).from l.number =
      ⟨some l.number, l.caption⟩ :: lettered l.entries
        ++ (affidavit style m number d).from l.next := by
  -- No entry is mistaken for a number.
  have toSuccessors := @dropWhile_lettered "6." (by decide)
  have toClosing := @dropWhile_lettered "7." (by decide)
  rcases List.mem_pair.mp hl with rfl | rfl <;>
    simp [Section.from, Section.read, affidavit, List.filterMap_cons, toSuccessors, toClosing]

theorem under?_peopleList {l : PeopleList} (hl : l ∈ peopleLists m) :
    (affidavit style m number d).under? l.number l.caption = some (lettered l.entries) := by
  have numbers : isNumber l.number = true ∧ isNumber l.next = true := by
    rcases List.mem_pair.mp hl with rfl | rfl
    · exact (by decide : isNumber "5." = true ∧ isNumber "6." = true)
    · exact (by decide : isNumber "6." = true ∧ isNumber "7." = true)
  exact Section.under?_eq (lines_from_peopleList style m number d hl) numbers
    isCaption_of_mem_lettered

end AdministrationAffidavit

/-- A section has a group of boxes with an identifier, and each such group has a box
checked exactly if something holds. -/
def Section.ChecksIff (s : Section) (group box : String) (p : Prop) : Prop :=
  (∃ g ∈ s.checkboxGroups, g.id = group)
    ∧ ∀ g ∈ s.checkboxGroups, g.id = group → (g.isChecked box = true ↔ p)

/-- A section that prints a passage checks its boxes as the table settles on a clause. -/
theorem EstateModel.checksIff_settles (m : EstateModel) (style : StyleProfile)
    (kind : DocumentKind) {s : Section} (hs : s ∈ (m.document style kind).sections)
    {t : ClauseTable EstateModel} (ht : t ∈ kind.passages)
    (printed : t.group ∈ s.checkboxGroups.map CheckboxGroup.id) (box : String) :
    s.ChecksIff t.group box (t.Settles m box) := by
  refine ⟨List.mem_map.mp printed, fun g hg named => ?_⟩
  have inDocument : g ∈ (m.document style kind).checkboxGroups := by
    rw [DocumentContent.checkboxGroups_eq]
    exact List.mem_flatMap.mpr ⟨s, hs, hg⟩
  have shows := m.shows_selected style ht (kind.passage_not_independent t ht) inDocument named
  rw [shows.isChecked_iff, eq_comm, (kind.passages_exclusive m t ht).select_active_iff]

namespace AdministrationAffidavit

variable (style : StyleProfile) (m : EstateModel)

/-- Each affidavit checks the box of a passage if its table settles on the clause. -/
theorem checksIff_settles {s : Section} (hs : s ∈ (document style m).sections)
    {t : ClauseTable EstateModel} (ht : t ∈ passages) (box : String) :
    s.ChecksIff t.group box (t.Settles m box) := by
  obtain ⟨i, hi, rfl⟩ := List.mem_mapIdx.mp hs
  have named : t.group ∈ (familyGroups style m).map CheckboxGroup.id := List.mem_map_of_mem ht
  refine m.checksIff_settles style .administrationAffidavit hs ht ?_ box
  rw [checkboxGroups_affidavit, affidavitGroups, List.map_append]
  exact List.mem_append_right _ named

/-- Each affidavit checks the box that goes with a list if there is anyone on it. -/
theorem checksIff_listed {s : Section} (hs : s ∈ (document style m).sections)
    {t : ClauseTable EstateModel} (ht : t ∈ passages) (other : t.fallback ≠ "listed")
    {α : Type} {people : EstateModel → List α}
    (listed : t.clauses = [⟨"listed", fun m => !(people m).isEmpty⟩]) :
    s.ChecksIff t.group "listed" (people m ≠ []) := by
  have settles : t.Settles m "listed" ↔ people m ≠ [] :=
    (ClauseTable.settles_single_iff listed other).trans (by simp)
  rw [← settles]
  exact checksIff_settles style m hs ht "listed"

end AdministrationAffidavit

/-! ## Both forms -/

namespace CaseBundle

open BeneficiaryRecord

/-- The schedule lists each beneficiary on record where the type says. -/
structure OnSchedule (b : CaseBundle) (schedule : Section) : Prop where
  /-- The captions with the lists under them. -/
  points : schedule.points =
    [Submission.point "1." "Executors to whom power is reserved"
        ((b.otherExecutors.filter fun e => e.disposition = .powerReserved).map
          OtherExecutor.name),
      Submission.point "2." "Spouse of the deceased"
        ((b.tagged spouseTags).head?.toList.map (entry · " (deceased)")),
      Submission.point "3." "Children of the deceased"
        ((b.tagged childTags).map (entry · " (deceased)")),
      Submission.point "4." "Other beneficiaries under the will"
        (b.notFamily.map (entry · " (deceased)")),
      Submission.point "5." "Intestate successors" ((b.tagged successorTags).map scheduleEntry),
      Submission.point "6." "Citors" b.citors]
  /-- The word for an empty list stands under the captions without an entry. -/
  none_iff : ∀ p ∈ schedule.points, noneLine ∈ p ↔ ∀ l ∈ p.tail, l.mark = none

/-- An affidavit names the children and the successors on record. -/
structure InAffidavit (b : CaseBundle) (affidavit : Section) : Prop where
  /-- The children, marked with letters. -/
  children : affidavit.under? "5." "As to the children of the deceased:" =
    some (lettered ((b.tagged childTags).map (entry · " (predeceased the deceased)")))
  /-- The successors, marked with letters. -/
  successors : affidavit.under? "6." "As to the intestate successors of the deceased:" =
    some (lettered ((b.tagged successorTags).map affidavitEntry))
  /-- The box for children is checked if there are any. -/
  childrenBox : affidavit.ChecksIff "children" "listed" (b.tagged childTags ≠ [])
  /-- The box for successors is checked if there are any. -/
  successorsBox :
    affidavit.ChecksIff "intestate_successors" "listed" (b.tagged successorTags ≠ [])

variable {b : CaseBundle} (settings : DocumentSettings) (style : StyleProfile)

theorem FamilyOnRecord.onSchedule (h : b.FamilyOnRecord) :
    b.OnSchedule (Submission.schedulePart style (b.build settings)) where
  points := by
    have same : (b.build settings).family = b.family := rfl
    rw [Submission.points_schedulePart, Submission.scheduleLists, same, h.spouseEntries_eq,
      h.children_eq, h.otherBeneficiaries_eq, h.intestateSuccessors_eq]
    simp only [List.map_map, Function.comp_def, memberEntry_familyMember,
      successorEntry_successor, List.mapIdx_cons, List.mapIdx_nil]
    rfl
  none_iff := by
    rw [Submission.points_schedulePart]
    intro p hp
    obtain ⟨i, _, rfl⟩ := List.mem_mapIdx.mp hp
    exact Submission.noneLine_mem_point_iff _ _ _

theorem FamilyOnRecord.inAffidavit (h : b.FamilyOnRecord) :
    ∀ affidavit ∈ ((b.build settings).document style .administrationAffidavit).sections,
      b.InAffidavit affidavit := by
  have same : (b.build settings).family = b.family := rfl
  intro affidavit mem
  have childrenBox := AdministrationAffidavit.checksIff_listed style _ mem
    (t := AdministrationAffidavit.children) (by simp [AdministrationAffidavit.passages])
    (by decide) rfl
  have successorsBox := AdministrationAffidavit.checksIff_listed style _ mem
    (t := AdministrationAffidavit.intestateSuccessors)
    (by simp [AdministrationAffidavit.passages]) (by decide) rfl
  obtain ⟨i, _, rfl⟩ := List.mem_mapIdx.mp mem
  rw [same, h.children_eq, ne_eq, List.map_eq_nil_iff] at childrenBox
  rw [same, h.intestateSuccessors_eq, ne_eq, List.map_eq_nil_iff] at successorsBox
  refine ⟨?_, ?_, childrenBox, successorsBox⟩
  · refine (AdministrationAffidavit.under?_peopleList style _ _ _ List.mem_cons_self).trans ?_
    rw [same, h.children_eq]
    simp only [List.map_map, Function.comp_def, childEntry_familyMember]
  · refine (AdministrationAffidavit.under?_peopleList style _ _ _
      (List.mem_cons_of_mem _ List.mem_cons_self)).trans ?_
    rw [same, h.intestateSuccessors_eq]
    simp only [List.map_map, Function.comp_def, sworn_successorEntry_successor]

/-- No beneficiary is lost or counted twice. -/
theorem beneficiaries_listed_once (b : CaseBundle) (settings : DocumentSettings)
    (style : StyleProfile) (onRecord : b.FamilyOnRecord) :
    (b.tagged spouseTags ++ b.tagged childTags ++ b.tagged successorTags ++ b.notFamily).Perm
        b.beneficiaries
    ∧ (b.grantType.impliesWill = true →
        ∃ schedule,
          ((b.build settings).document style .submission).section? "part_4" = some schedule
            ∧ b.OnSchedule schedule)
    ∧ ((b.build settings).document style .administrationAffidavit).sections ≠ []
    ∧ ∀ affidavit ∈ ((b.build settings).document style .administrationAffidavit).sections,
        b.InAffidavit affidavit := by
  refine ⟨b.tagged_perm, fun implies => ?_, ?_, onRecord.inAffidavit settings style⟩
  · exact ⟨_, Submission.section?_schedule style (b.build settings) implies,
      onRecord.onSchedule settings style⟩
  · exact List.mapIdx_ne_nil_iff.mpr (Deponents.groups_ne_nil _)

/-- A spouse, a stepchild who died first and a friend. -/
def stepfamily : CaseBundle where
  case := { grantType := some "probate" }
  beneficiaries :=
    [{ fullName := some "Ann Lee", kind := some "Spouse" },
      { fullName := some "Kim Lee", kind := some "Step-Child", status := some "Died" },
      { fullName := some "Lou Fox", kind := some "friend" }]

theorem stepfamily_listed :
    stepfamily.FamilyOnRecord
    ∧ ∃ schedule,
      ((stepfamily.build {}).document .standard .submission).section? "part_4" = some schedule
        ∧ schedule.points =
          [[⟨some "1.", "Executors to whom power is reserved"⟩, ⟨none, "None."⟩],
            [⟨some "2.", "Spouse of the deceased"⟩, ⟨some "(a)", "Ann Lee"⟩],
            [⟨some "3.", "Children of the deceased"⟩, ⟨some "(a)", "Kim Lee (deceased)"⟩],
            [⟨some "4.", "Other beneficiaries under the will"⟩, ⟨some "(a)", "Lou Fox"⟩],
            [⟨some "5.", "Intestate successors"⟩, ⟨none, "None."⟩],
            [⟨some "6.", "Citors"⟩, ⟨none, "None."⟩]] := by
  have onRecord : stepfamily.FamilyOnRecord := fun _ _ => rfl
  obtain ⟨_, submission, _⟩ := stepfamily.beneficiaries_listed_once {} .standard onRecord
  obtain ⟨schedule, found, schedules⟩ := submission (by decide)
  refine ⟨onRecord, schedule, found, schedules.points.trans ?_⟩
  decide

end CaseBundle

end EstateFiling
