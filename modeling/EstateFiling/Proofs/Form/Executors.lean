import EstateFiling.Proofs.Document.Wording
import EstateFiling.Proofs.Form.Beneficiaries

/-!
# Executors on the forms

Where each record of an executor ends up.  A record whose status says that the executor
renounced, died or has power reserved names an executor who does not apply; all others name
applicants.  `ToldApart` tells a list of records apart one by one, so that each goes to one
of the two lists and both keep their order.  A status spells at most one reason
(`ExecutorRecord.disposition?_eq_some_iff`), so there is one way to tell records apart, and
the estate goes by it (`toldApart_iff`).

The affidavit under a will lists those who do not apply under one of its captions
(`ShortAffidavit.under?_otherExecutors`), and the submission asks for the renunciations and
names the executors with power reserved.  Both speak of the same records
(`CaseBundle.executors_told_apart`).
-/

namespace EstateFiling

/-! ## The status of a record -/

/-- How records spell the reason why an executor does not apply. -/
def Disposition.spellings : Disposition → List String
  | .renounced => ["renounced", "renouncing"]
  | .deceased => ["deceased", "died", "predeceased"]
  | .powerReserved => ["reserved", "power_reserved", "power reserved"]

namespace ExecutorRecord

/-- The status of a record gives a reason not to apply, up to case and blanks around it. -/
def Excused (r : ExecutorRecord) (d : Disposition) : Prop :=
  Text.lower (Field.text r.status) ∈ d.spellings

instance (r : ExecutorRecord) (d : Disposition) : Decidable (r.Excused d) :=
  inferInstanceAs (Decidable (_ ∈ _))

/-- No spelling stands for two reasons. -/
theorem disposition_unique {status : String} {d e : Disposition} (hd : status ∈ d.spellings)
    (he : status ∈ e.spellings) : d = e := by
  have apart : ∀ d ∈ Disposition.all, ∀ e ∈ Disposition.all, ∀ s ∈ d.spellings,
      s ∈ e.spellings → d = e := by decide
  have every : ∀ d, d ∈ Disposition.all := by
    intro d
    cases d <;> decide
  exact apart d (every d) e (every e) status hd he

theorem disposition?_eq_some_iff (r : ExecutorRecord) (d : Disposition) :
    r.disposition? = some d ↔ r.Excused d := by
  have found : ∀ e, r.disposition? = some e → r.Excused e := by
    intro e
    unfold disposition? Excused
    split <;> rintro ⟨⟩ <;> simp_all [Disposition.spellings]
  refine ⟨found d, fun excused => ?_⟩
  cases h : r.disposition? with
  | some e => rw [disposition_unique excused (found e h)]
  | none =>
    unfold Excused at excused
    unfold disposition? at h
    split at h <;> cases d <;> simp_all [Disposition.spellings]

theorem disposition?_eq_none_iff (r : ExecutorRecord) :
    r.disposition? = none ↔ ∀ d, ¬ r.Excused d := by
  rw [Option.eq_none_iff_forall_ne_some]
  simp only [ne_eq, disposition?_eq_some_iff]

end ExecutorRecord

/-! ## Records told apart -/

/-- Records told apart one by one into applicants and executors who do not apply. -/
inductive ToldApart : List ExecutorRecord → List Applicant → List OtherExecutor → Prop where
  /-- No record is left. -/
  | done : ToldApart [] [] []
  /-- The first record gives no reason not to apply. -/
  | applies {r : ExecutorRecord} {records : List ExecutorRecord} {applicants : List Applicant}
      {others : List OtherExecutor} (free : ∀ d, ¬ r.Excused d)
      (rest : ToldApart records applicants others) :
      ToldApart (r :: records) (r.applicant :: applicants) others
  /-- The first record gives a reason, and the name the applicant would have. -/
  | excused {r : ExecutorRecord} {d : Disposition} {records : List ExecutorRecord}
      {applicants : List Applicant} {others : List OtherExecutor} (reason : r.Excused d)
      (rest : ToldApart records applicants others) :
      ToldApart (r :: records) applicants (⟨r.applicant.displayName, d⟩ :: others)

section Lists

variable {r : ExecutorRecord} {records : List ExecutorRecord}

theorem applicantsOf_cons_of_free (free : ∀ d, ¬ r.Excused d) :
    applicantsOf (r :: records) = r.applicant :: applicantsOf records := by
  have applies := (r.disposition?_eq_none_iff).mpr free
  unfold applicantsOf
  rw [List.filter_cons_of_pos (by rw [applies]; rfl), List.map_cons]

theorem otherExecutorsOf_cons_of_free (free : ∀ d, ¬ r.Excused d) :
    otherExecutorsOf (r :: records) = otherExecutorsOf records := by
  have applies := (r.disposition?_eq_none_iff).mpr free
  exact List.filterMap_cons_none (by rw [ExecutorRecord.otherExecutor?, applies]; rfl)

theorem applicantsOf_cons_of_excused {d : Disposition} (reason : r.Excused d) :
    applicantsOf (r :: records) = applicantsOf records := by
  have excused := (r.disposition?_eq_some_iff d).mpr reason
  unfold applicantsOf
  rw [List.filter_cons_of_neg (by rw [excused]; exact Bool.false_ne_true)]

theorem otherExecutorsOf_cons_of_excused {d : Disposition} (reason : r.Excused d) :
    otherExecutorsOf (r :: records) =
      ⟨r.applicant.displayName, d⟩ :: otherExecutorsOf records := by
  have excused := (r.disposition?_eq_some_iff d).mpr reason
  exact List.filterMap_cons_some (by rw [ExecutorRecord.otherExecutor?, excused]; rfl)

end Lists

/-- There is one way to tell records apart. -/
theorem toldApart_iff {records : List ExecutorRecord} {applicants : List Applicant}
    {others : List OtherExecutor} :
    ToldApart records applicants others ↔
      applicantsOf records = applicants ∧ otherExecutorsOf records = others := by
  constructor
  · intro apart
    induction apart with
    | done => exact ⟨rfl, rfl⟩
    | applies free _ ih =>
      rw [applicantsOf_cons_of_free free, otherExecutorsOf_cons_of_free free, ih.1, ih.2]
      exact ⟨rfl, rfl⟩
    | excused reason _ ih =>
      rw [applicantsOf_cons_of_excused reason, otherExecutorsOf_cons_of_excused reason, ih.1,
        ih.2]
      exact ⟨rfl, rfl⟩
  · rintro ⟨rfl, rfl⟩
    induction records with
    | nil => exact .done
    | cons r records ih =>
      cases h : r.disposition? with
      | none =>
        have free := (r.disposition?_eq_none_iff).mp h
        rw [applicantsOf_cons_of_free free, otherExecutorsOf_cons_of_free free]
        exact .applies free ih
      | some d =>
        have reason := (r.disposition?_eq_some_iff d).mp h
        rw [applicantsOf_cons_of_excused reason, otherExecutorsOf_cons_of_excused reason]
        exact .excused reason ih

/-- An executor who does not apply for a reason is on a record that gives it. -/
theorem exists_mem_otherExecutorsOf_iff {records : List ExecutorRecord} {d : Disposition} :
    (∃ e ∈ otherExecutorsOf records, e.disposition = d) ↔ ∃ r ∈ records, r.Excused d := by
  simp only [otherExecutorsOf, List.mem_filterMap, ExecutorRecord.otherExecutor?,
    Option.map_eq_some_iff, ExecutorRecord.disposition?_eq_some_iff]
  constructor
  · rintro ⟨_, ⟨r, hr, _, reason, rfl⟩, rfl⟩
    exact ⟨r, hr, reason⟩
  · rintro ⟨r, hr, reason⟩
    exact ⟨_, ⟨r, hr, d, reason, rfl⟩, rfl⟩

/-- Those who do not apply for a reason, in the order of the records. -/
theorem filter_otherExecutorsOf (records : List ExecutorRecord) (d : Disposition) :
    ((otherExecutorsOf records).filter fun e => e.disposition = d).map OtherExecutor.name =
      (records.filter fun r => r.Excused d).map fun r => r.applicant.displayName := by
  induction records with
  | nil => rfl
  | cons r records ih =>
    cases h : r.disposition? with
    | none =>
      have free := (r.disposition?_eq_none_iff).mp h
      rw [otherExecutorsOf_cons_of_free free, ih, List.filter_cons_of_neg (by simp [free d])]
    | some e =>
      have reason := (r.disposition?_eq_some_iff e).mp h
      rw [otherExecutorsOf_cons_of_excused reason]
      by_cases same : e = d
      · subst same
        rw [List.filter_cons_of_pos (by simp), List.filter_cons_of_pos (by simp [reason]),
          List.map_cons, List.map_cons, ih]
      · have other : ¬ r.Excused d := fun excused =>
          same (ExecutorRecord.disposition_unique reason excused)
        rw [List.filter_cons_of_neg (by simp [same]), List.filter_cons_of_neg (by simp [other]),
          ih]

/-! ## The affidavit under a will -/

/-- A section is an affidavit, and not an exhibit to one. -/
def Section.IsAffidavit (s : Section) : Prop := Text.startsWith s.id "affidavit." = true

/-- An affidavit lists the executors who do not apply, with the reasons, and checks the box
that goes with the list if there are any. -/
structure Section.ListsOthers (s : Section) (others : List OtherExecutor) : Prop where
  /-- The executors, marked with letters. -/
  listed : s.under? "4." "As to the other executors named in the will:" =
    some (lettered (others.map fun e =>
      Filler.orDots e.name 30 ++ ", who " ++ e.disposition.reason ++ "."))
  /-- The box is checked if there are any. -/
  box : s.ChecksIff "other_executors" "listed" (others ≠ [])

namespace ShortAffidavit

variable (style : StyleProfile) (m : EstateModel) (number : Nat) (d : Deponents)

@[simp] theorem lines_standings :
    (d.membersOrBlank.mapIdx (standingPassage style d)).filterMap Block.line? = [] :=
  filterMap_mapIdx_eq_nil (fun _ _ => rfl) _

/-- From the caption of the executors on, the affidavit reads the caption, the executors with
letters, and then on from the number behind them. -/
theorem lines_from_otherExecutors :
    (affidavit style m number d).from "4." =
      ⟨some "4.", "As to the other executors named in the will:"⟩
        :: lettered (m.otherExecutors.map otherExecutorEntry)
          ++ (affidavit style m number d).from "5." := by
  have entries := @dropWhile_lettered "5." (by decide)
  simp [Section.from, Section.read, affidavit, List.filterMap_cons, entries]

theorem under?_otherExecutors :
    (affidavit style m number d).under? "4." "As to the other executors named in the will:" =
      some (lettered (m.otherExecutors.map otherExecutorEntry)) :=
  Section.under?_eq (lines_from_otherExecutors style m number d) (by decide)
    isCaption_of_mem_lettered

/-- The affidavits are those of the groups of deponents. -/
theorem exists_affidavit {s : Section} (hs : s ∈ (document style m).sections)
    (sworn : s.IsAffidavit) : ∃ number d, s = affidavit style m number d := by
  obtain ⟨pair, hpair, hs⟩ := List.mem_flatten.mp hs
  obtain ⟨i, hi, rfl⟩ := List.mem_mapIdx.mp hpair
  rcases List.mem_pair.mp hs with rfl | rfl
  · exact ⟨_, _, rfl⟩
  · -- The name of an exhibit begins with another letter.
    simp [Section.IsAffidavit, exhibit, Form.numberedId, Text.startsWith] at sworn

theorem isAffidavit_affidavit : (affidavit style m number d).IsAffidavit :=
  Text.startsWith_append "affidavit." _

/-- Each affidavit lists the executors who do not apply. -/
theorem listsOthers {s : Section} (hs : s ∈ (document style m).sections)
    (sworn : s.IsAffidavit) : s.ListsOthers m.otherExecutors := by
  have settles : otherExecutors.Settles m "listed" ↔ m.otherExecutors ≠ [] :=
    (ClauseTable.settles_single_iff (t := otherExecutors) rfl (by decide)).trans (by simp)
  obtain ⟨number, d, rfl⟩ := exists_affidavit style m hs sworn
  refine ⟨under?_otherExecutors style m number d, ?_⟩
  rw [← settles]
  refine m.checksIff_settles style .shortAffidavit (t := otherExecutors) hs
    (by simp [DocumentKind.passages, passages]) ?_ "listed"
  rw [checkboxGroups_affidavit, affidavitGroups, List.map_append]
  exact List.mem_append_right _ (by simp [willGroups, Compose.passageGroup, Compose.choiceGroup])

theorem exists_mem_affidavits : ∃ s ∈ (document style m).sections, s.IsAffidavit := by
  obtain ⟨d, rest, first⟩ := List.exists_cons_of_ne_nil (Deponents.groups_ne_nil m)
  refine ⟨affidavit style m 1 d, ?_, isAffidavit_affidavit style m 1 d⟩
  unfold document
  rw [first, List.mapIdx_cons, List.flatten_cons]
  exact List.mem_append_left _ List.mem_cons_self

end ShortAffidavit

/-! ## The submission -/

namespace Submission

variable (style : StyleProfile) (m : EstateModel)

theorem checks_renunciations_iff :
    (m.document style .submission).Checks "renunciations" "filed" ↔
      ∃ e ∈ m.otherExecutors, e.disposition = .renounced := by
  refine (m.checks_clause_iff style (t := renunciations)
    (by simp [DocumentKind.passages, passages]) (by decide) _).trans ?_
  simp [ClauseTable.Settles, renunciations, EstateModel.hasRenunciations]

/-- The schedule begins with the executors who may apply later. -/
theorem head?_points_schedulePart :
    (schedulePart style m).points.head? =
      some (point "1." "Executors to whom power is reserved"
        ((m.otherExecutors.filter fun e => e.disposition = .powerReserved).map
          OtherExecutor.name)) := by
  rw [points_schedulePart]
  rfl

end Submission

/-! ## Both forms -/

namespace CaseBundle

/-- Neither the applicants nor the executors who do not apply are entered by hand. -/
def ExecutorsOnRecord (b : CaseBundle) : Prop :=
  ∀ key ∈ ["applicants", "other_executors"], b.overrides.get? key = none

variable {b : CaseBundle}

theorem ExecutorsOnRecord.applicants_eq (h : b.ExecutorsOnRecord) :
    b.applicants = applicantsOf b.executors := by
  have absent := h "applicants" (by decide)
  simp [applicants, ManualOverrides.value?, absent]

theorem ExecutorsOnRecord.otherExecutors_eq (h : b.ExecutorsOnRecord) :
    b.otherExecutors = otherExecutorsOf b.executors := by
  have absent := h "other_executors" (by decide)
  simp [otherExecutors, ManualOverrides.value?, absent]

/-- Every executor on record either applies or does not, and the forms agree on who. -/
theorem executors_told_apart (b : CaseBundle) (settings : DocumentSettings)
    (style : StyleProfile) (onRecord : b.ExecutorsOnRecord) :
    (∀ applicants others, ToldApart b.executors applicants others ↔
      (b.build settings).applicants = applicants ∧ (b.build settings).otherExecutors = others)
    ∧ (∃ s ∈ ((b.build settings).document style .shortAffidavit).sections, s.IsAffidavit)
    ∧ (∀ s ∈ ((b.build settings).document style .shortAffidavit).sections, s.IsAffidavit →
        s.ListsOthers (b.build settings).otherExecutors)
    ∧ (((b.build settings).document style .submission).Checks "renunciations" "filed" ↔
        ∃ r ∈ b.executors, r.Excused .renounced)
    ∧ (b.grantType.impliesWill = true →
        ∃ schedule,
          ((b.build settings).document style .submission).section? "part_4" = some schedule
            ∧ schedule.points.head? =
              some (Submission.point "1." "Executors to whom power is reserved"
                ((b.executors.filter fun r => r.Excused .powerReserved).map
                  fun r => r.applicant.displayName))) := by
  have applying : (b.build settings).applicants = applicantsOf b.executors :=
    onRecord.applicants_eq
  have others : (b.build settings).otherExecutors = otherExecutorsOf b.executors :=
    onRecord.otherExecutors_eq
  refine ⟨fun _ _ => ?apart, ShortAffidavit.exists_mem_affidavits style _,
    fun _ hs => ShortAffidavit.listsOthers style _ hs, ?renounced, fun implies => ?reserved⟩
  case apart => rw [applying, others, toldApart_iff]
  case renounced =>
    rw [Submission.checks_renunciations_iff, others, exists_mem_otherExecutorsOf_iff]
  case reserved =>
    refine ⟨_, Submission.section?_schedule style (b.build settings) implies, ?_⟩
    rw [Submission.head?_points_schedulePart, others, filter_otherExecutorsOf]

/-- An executor who applies, one who renounced, one who died and one with power reserved. -/
def fourExecutors : CaseBundle where
  case := { grantType := some "probate" }
  executors :=
    [{ fullName := some "Ann Lee", status := some "Renounced " },
      { fullName := some "Kim Lee" },
      { organizationName := some "Fox Trust", isOrganization := some true,
        status := some "Power Reserved" },
      { fullName := some "Lou Fox", status := some "died" }]

theorem fourExecutors_told_apart :
    fourExecutors.ExecutorsOnRecord
    ∧ (fourExecutors.build {}).applicants.map Applicant.displayName = ["Kim Lee"]
    ∧ (fourExecutors.build {}).otherExecutors =
        [⟨"Ann Lee", .renounced⟩, ⟨"Fox Trust", .powerReserved⟩, ⟨"Lou Fox", .deceased⟩]
    ∧ ((fourExecutors.build {}).document .standard .submission).Checks "renunciations" "filed"
    ∧ ∃ schedule,
        ((fourExecutors.build {}).document .standard .submission).section? "part_4" =
            some schedule
          ∧ schedule.points.head? =
            some [⟨some "1.", "Executors to whom power is reserved"⟩,
              ⟨some "(a)", "Fox Trust"⟩] := by
  have onRecord : fourExecutors.ExecutorsOnRecord := fun _ _ => rfl
  obtain ⟨apart, _, _, renounced, reserved⟩ :=
    fourExecutors.executors_told_apart {} .standard onRecord
  obtain ⟨schedule, found, first⟩ := reserved (by decide)
  refine ⟨onRecord, by decide, by decide, renounced.mpr ?_, schedule, found, first.trans ?_⟩
  · exact ⟨_, List.mem_cons_self, by decide⟩
  · decide

end CaseBundle

end EstateFiling
