import EstateFiling.Form.Deponents
import EstateFiling.Proofs.List.Positions
import EstateFiling.Proofs.Text.Trimming

/-!
# Groups of deponents

The groups in which the applicants swear part the applicants in their order.  The position
of a member in its group, counted from where the group begins, is its position among all
applicants (`Deponents.member_position`), so what is done for each member of each group is
done for each applicant once (`Deponents.flatMap_numbered`).

There are as many groups as affidavits (`Deponents.length_groups`), and a group is joint
only if the applicants swear jointly and are several (`Deponents.isJoint_of_mem`).

A form prints an applicant by name, or as a run of dots (`Applicant.printedName`).  A name is
trimmed as it is, so printing does not change it (`Applicant.printedName_of_named`).
-/

namespace EstateFiling

/-! ## Names as they are printed -/

theorem PersonName.trim_display (name : PersonName) : Text.trim name.display = name.display := by
  refine Text.trim_join fun part hpart => ?_
  obtain ⟨part, filled⟩ := List.mem_filter.mp hpart
  obtain ⟨given, _, rfl⟩ := List.mem_map.mp part
  exact ⟨Text.trim_trim given, by simpa using filled⟩

namespace Applicant

theorem trim_displayName (a : Applicant) : Text.trim a.displayName = a.displayName := by
  unfold displayName
  split
  · exact Text.trim_trim _
  · exact a.name.trim_display

/-- An applicant as the forms print one: by name, or as a run of dots. -/
def printedName (a : Applicant) : String := Filler.orDots a.displayName 30

variable {a : Applicant}

theorem printedName_of_named (h : a.displayName ≠ "") : a.printedName = a.displayName := by
  unfold printedName Filler.orDots
  rw [trim_displayName]
  exact if_neg (by simpa using h)

theorem printedName_of_unnamed (h : a.displayName = "") : a.printedName = Filler.dots 30 := by
  unfold printedName
  rw [h]
  rfl

end Applicant

/-- The members of a group as the forms print them, one run of dots when there is none. -/
def Deponents.printedNames (d : Deponents) : List String :=
  d.membersOrBlank.map Applicant.printedName

/-! ## Affidavits and groups -/

/-- How many affidavits the applicants swear: one if there is no applicant or they swear
jointly, and one each otherwise. -/
def EstateModel.affidavitCount (m : EstateModel) : Nat :=
  if m.applicants = [] ∨ m.filing.jointAffidavit = true then 1 else m.applicants.length

namespace Deponents

/-- The applicants swear in one group, or each in a group of its own. -/
theorem groups_cases (m : EstateModel) :
    ((m.applicants = [] ∨ m.filing.jointAffidavit = true) ∧ groups m = [together m])
    ∨ ((m.applicants ≠ [] ∧ m.filing.jointAffidavit = false)
      ∧ groups m = m.applicants.mapIdx fun i a => ⟨i + 1, [a]⟩) := by
  unfold groups
  split
  · rename_i one
    rw [Bool.or_eq_true, List.isEmpty_iff] at one
    exact Or.inl ⟨one, rfl⟩
  · rename_i several
    rw [Bool.or_eq_true, List.isEmpty_iff, not_or, Bool.not_eq_true] at several
    exact Or.inr ⟨several, rfl⟩

/-- There is at least one group of deponents. -/
theorem groups_ne_nil (m : EstateModel) : groups m ≠ [] := by
  rcases groups_cases m with ⟨_, groups⟩ | ⟨⟨applies, _⟩, groups⟩
  · rw [groups]
    exact List.cons_ne_nil _ _
  · rw [groups]
    exact List.mapIdx_ne_nil_iff.mpr applies

theorem length_groups (m : EstateModel) : (groups m).length = m.affidavitCount := by
  unfold EstateModel.affidavitCount
  rcases groups_cases m with ⟨one, groups⟩ | ⟨⟨applies, apart⟩, groups⟩
  · rw [groups, if_pos one]
    rfl
  · rw [groups, if_neg (by simp [applies, apart]), List.length_mapIdx]

theorem membersOrBlank_of_ne_nil {d : Deponents} (h : d.members ≠ []) :
    d.membersOrBlank = d.members := if_neg (by simpa using h)

theorem length_membersOrBlank (d : Deponents) :
    d.membersOrBlank.length = max 1 d.members.length := by
  unfold membersOrBlank
  cases d.members with
  | nil => rfl
  | cons a rest =>
    simp only [List.isEmpty_cons, Bool.false_eq_true, if_false, List.length_cons]
    omega

/-- There is at least one applicant, who may be blank. -/
theorem membersOrBlank_together (m : EstateModel) :
    (together m).membersOrBlank = m.applicants.head?.getD {} :: m.applicants.tail := by
  unfold membersOrBlank together
  cases m.applicants <;> rfl

/-- A member of a group stands among all applicants where its position says. -/
theorem member_position {m : EstateModel} {d : Deponents} (hd : d ∈ groups m) {i : Nat}
    {a : Applicant} (ha : d.membersOrBlank[i]? = some a) :
    ∃ k, d.firstIndex + i = k + 1 ∧ (together m).membersOrBlank[k]? = some a := by
  rcases groups_cases m with ⟨_, groups⟩ | ⟨⟨applies, _⟩, groups⟩
  · -- One group holds every applicant, from position 1.
    rw [groups, List.mem_singleton] at hd
    subst hd
    exact ⟨i, Nat.add_comm 1 i, ha⟩
  · rw [groups] at hd
    obtain ⟨j, hj, rfl⟩ := List.mem_mapIdx.mp hd
    rw [membersOrBlank_of_ne_nil applies]
    match i with
    | 0 => exact ⟨j, rfl, (List.getElem?_eq_getElem hj).trans ha⟩
    | i + 1 => simp [membersOrBlank] at ha

/-- What is done for each member of each group, counted from where the group begins, is
done for each applicant once, counted from one. -/
theorem flatMap_numbered {β : Type} (m : EstateModel) (f : Nat → Applicant → β) :
    (groups m).flatMap (fun d => d.membersOrBlank.mapIdx fun i a => f (d.firstIndex + i) a) =
      (together m).membersOrBlank.mapIdx fun i a => f (i + 1) a := by
  rcases groups_cases m with ⟨_, groups⟩ | ⟨⟨applies, _⟩, groups⟩
  · have shift : ∀ i, (together m).firstIndex + i = i + 1 := fun i => Nat.add_comm 1 i
    simp only [groups, List.flatMap_singleton, shift]
  · -- Each group holds one applicant and begins where the applicant stands.
    rw [groups, membersOrBlank_of_ne_nil applies]
    exact flatMap_mapIdx_singleton (h := fun i a => f (i + 1) a) (fun _ _ => rfl) _

/-- What is done for each member of each group, regardless of its position. -/
theorem flatMap_members {β : Type} (m : EstateModel) (f : Applicant → β) :
    (groups m).flatMap (fun d => d.membersOrBlank.map f) = (together m).membersOrBlank.map f := by
  have numbered := flatMap_numbered m fun _ a => f a
  simpa only [mapIdx_of_item] using numbered

/-- A group is joint if there are several applicants who swear jointly. -/
theorem isJoint_of_mem {m : EstateModel} {d : Deponents} (hd : d ∈ groups m) :
    d.isJoint = (m.filing.jointAffidavit && (together m).isJoint) := by
  rcases groups_cases m with ⟨one, groups⟩ | ⟨⟨_, apart⟩, groups⟩
  · rw [groups, List.mem_singleton] at hd
    subst hd
    rcases one with nobody | joint
    · have alone : (together m).isJoint = false := by simp [isJoint, together, nobody]
      rw [alone, Bool.and_false]
    · rw [joint, Bool.true_and]
  · rw [groups] at hd
    obtain ⟨i, _, rfl⟩ := List.mem_mapIdx.mp hd
    rw [apart, Bool.false_and]
    rfl

end Deponents

end EstateFiling
