import EstateFiling.Proofs.Form.Beneficiaries
import EstateFiling.Proofs.Form.Executors
import EstateFiling.Proofs.Form.Formed

/-!
# Entries without a text

What a case leaves out is left to be filled in by hand: a form prints a filler in its place.
In the schedule of the submission two entries have none.  An executor to whom power is reserved
is printed by name, and an intestate successor by name and relationship, so that a record that
says neither leaves a marker with nothing after it (`CaseBundle.unnamedReserved_not_filled`).
Without overrides these records are the only ones that do, in any document
(`CaseBundle.paragraphs_filled_iff`).
-/

namespace EstateFiling

namespace ManualOverrides

variable {o : ManualOverrides} (h : o.isEmpty = true)

include h

theorem get?_of_isEmpty (key : String) : o.get? key = none := by
  have entries : o.entries = [] := List.isEmpty_iff.mp h
  rw [get?, entries]
  rfl

theorem value?_of_isEmpty {α : Type} (key : String) (decode : Json.Decoder α) :
    o.value? key decode = none := by
  rw [value?, get?_of_isEmpty h]
  rfl

end ManualOverrides

namespace Submission

/-- A successor's entry is filled by a name or a relationship. -/
theorem filled_successorEntry_iff (r : BeneficiaryRecord) :
    Text.Filled (successorEntry r.successor) ↔
      Text.Filled (Field.text r.fullName) ∨ Text.Filled (Field.text r.relationship) := by
  have trimmed : Text.Filled (Field.text r.relationship) ↔ Field.text r.relationship ≠ "" :=
    Text.filled_iff_of_trimmed (Text.trim_trim _)
  rw [trimmed]
  unfold successorEntry BeneficiaryRecord.successor
  split
  case isTrue unrelated =>
    exact (or_iff_left (not_not_intro (String.isEmpty_iff.mp unrelated))).symm
  case isFalse related =>
    have related : Field.text r.relationship ≠ "" := fun h => related (String.isEmpty_iff.mpr h)
    refine iff_of_true ?_ (.inr related)
    exact Text.filled_append.mpr (.inl (Text.filled_append.mpr (.inr (trimmed.mpr related))))

theorem filled_successorEntries_iff (records : List BeneficiaryRecord) (payload : Option Json) :
    (∀ s ∈ (Family.ofRecords records payload).intestateSuccessors.map successorEntry,
        Text.Filled s) ↔
      ∀ r ∈ records, r.placement = .intestateSuccessor →
        Text.Filled (Field.text r.fullName) ∨ Text.Filled (Field.text r.relationship) := by
  simp only [Family.ofRecords, List.map_map, List.forall_mem_map, List.mem_filter,
    decide_eq_true_eq, and_imp, Function.comp_apply, filled_successorEntry_iff]

/-- The executors to whom power is reserved are printed by name. -/
theorem filled_reservedNames_iff (records : List ExecutorRecord) :
    (∀ s ∈ ((otherExecutorsOf records).filter fun e => e.disposition = .powerReserved).map
        OtherExecutor.name, Text.Filled s) ↔
      ∀ r ∈ records, r.disposition? = some .powerReserved →
        Text.Filled r.applicant.displayName := by
  simp only [otherExecutorsOf, List.forall_mem_map, List.mem_filter, List.mem_filterMap,
    ExecutorRecord.otherExecutor?, Option.map_eq_some_iff, decide_eq_true_eq]
  constructor
  · intro filled r hr reserved
    exact filled ⟨r.applicant.displayName, .powerReserved⟩ ⟨⟨r, hr, _, reserved, rfl⟩, rfl⟩
  · rintro filled e ⟨⟨r, hr, d, reason, rfl⟩, reserved⟩
    exact filled r hr (reason.trans (congrArg some reserved))

end Submission

namespace CaseBundle

/-- The records whose entries in the schedule have no filler say something: the executors with
reserved power their name, the intestate successors their name or relationship. -/
structure NamesScheduled (b : CaseBundle) : Prop where
  /-- The executors with reserved power are named. -/
  reserved : ∀ r ∈ b.executors, r.disposition? = some .powerReserved →
    Text.Filled r.applicant.displayName
  /-- The intestate successors are named, or their relationship is. -/
  successors : ∀ r ∈ b.beneficiaries, r.placement = .intestateSuccessor →
    Text.Filled (Field.text r.fullName) ∨ Text.Filled (Field.text r.relationship)

section Recorded

variable {b : CaseBundle} (h : b.overrides.isEmpty = true)

include h

theorem aliases_of_isEmpty : b.deceased.aliases = trimmedList b.case.deceasedAliases := by
  simp only [deceased, ManualOverrides.value?_of_isEmpty h, Option.getD_none]

theorem citors_of_isEmpty : b.citors = trimmedList b.case.citors := by
  simp only [citors, ManualOverrides.value?_of_isEmpty h, Option.getD_none]

/-- Aliases and citors are kept only if they are filled, so the records decide. -/
theorem filled_verbatim_iff (settings : DocumentSettings) :
    (∀ s ∈ Submission.verbatim (b.build settings), Text.Filled s) ↔
      (b.grantType.impliesWill = true → b.NamesScheduled) := by
  have aliases : ∀ s ∈ b.deceased.aliases, Text.Filled s := by
    rw [aliases_of_isEmpty h]
    exact fun _ => Text.filled_of_mem_trimmedNonBlank
  have citors : ∀ s ∈ b.citors, Text.Filled s := by
    rw [citors_of_isEmpty h]
    exact fun _ => Text.filled_of_mem_trimmedNonBlank
  have executors : b.ExecutorsOnRecord := fun key _ => ManualOverrides.get?_of_isEmpty h key
  have family : b.FamilyOnRecord := fun key _ => ManualOverrides.get?_of_isEmpty h key
  have entries : (∀ s ∈ Submission.verbatimEntries (b.build settings), Text.Filled s) ↔
      b.NamesScheduled := by
    show (∀ s ∈ (b.otherExecutors.filter _).map _ ++ b.family.intestateSuccessors.map _
      ++ b.citors, Text.Filled s) ↔ _
    rw [executors.otherExecutors_eq, family.family_eq, List.forall_mem_append,
      List.forall_mem_append, Submission.filled_reservedNames_iff,
      Submission.filled_successorEntries_iff, and_iff_left citors]
    exact ⟨fun ⟨reserved, successors⟩ => ⟨reserved, successors⟩, fun h => ⟨h.1, h.2⟩⟩
  show (∀ s ∈ b.deceased.aliases ++ (if b.grantType.impliesWill then _ else _), _) ↔ _
  rw [List.forall_mem_append, and_iff_right aliases]
  split
  case isTrue will => rw [entries, will, imp_iff_right rfl]
  case isFalse intestate =>
    exact iff_of_true (fun _ h => nomatch h) fun will => absurd will intestate

/-- Without overrides every paragraph of every document is filled, except that in the submission
under a grant that rests on a will the records in the schedule have to be named. -/
theorem paragraphs_filled_iff (settings : DocumentSettings) (kind : DocumentKind) :
    (∀ p, .paragraph p ∈ (b.document settings kind).blocks → Text.Filled p.body) ↔
      (kind = .submission → b.grantType.impliesWill = true → b.NamesScheduled) := by
  unfold document
  rw [EstateModel.bodies_filled_iff, filled_verbatim_iff h]

end Recorded

/-- A case with a will and one executor, to whom power is reserved. -/
def reservedTo (name : Option String) : CaseBundle where
  case := { hasWill := some true }
  executors := [{ fullName := name, status := some "reserved" }]

/-- An executor with a name leaves no entry without a text. -/
theorem namedReserved_filled :
    (reservedTo (some "Ann Lee")).overrides.isEmpty = true ∧
      ∀ p, .paragraph p ∈ ((reservedTo (some "Ann Lee")).document {} .submission).blocks →
        Text.Filled p.body := by
  have named : (reservedTo (some "Ann Lee")).NamesScheduled :=
    { reserved := by decide
      successors := fun _ h => nomatch h }
  exact ⟨rfl, (paragraphs_filled_iff rfl {} .submission).mpr fun _ _ => named⟩

/-- An executor without a name leaves an entry without a text. -/
theorem unnamedReserved_not_filled :
    (reservedTo none).overrides.isEmpty = true ∧
      ¬ ∀ p, .paragraph p ∈ ((reservedTo none).document {} .submission).blocks →
        Text.Filled p.body := by
  refine ⟨rfl, fun filled => ?_⟩
  have named : (reservedTo none).NamesScheduled :=
    (filled_verbatim_iff rfl {}).mp
      ((EstateModel.bodies_filled_iff _ _ .submission).mp filled rfl) rfl
  exact absurd (named.reserved _ List.mem_cons_self (by decide)) (by decide)

end CaseBundle

end EstateFiling
