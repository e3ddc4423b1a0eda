import EstateFiling.Proofs.Form.CheckedBoxes
import EstateFiling.Proofs.Form.Enclosures

/-!
# What the forms say of the foreign grant

Three forms speak of a grant made elsewhere.  The notice and the submission go by
the grant that is applied for: both tick their box exactly for an ancillary grant.
The cover letter goes by what is known, and an estate may hold a foreign grant
without applying for an ancillary one (`CaseBundle.isSome_foreignGrant_iff`).

So the boxes agree with each other, and whenever they are ticked the letter lists
the grant.  All three agree exactly if the grant is ancillary or no foreign grant is
known (`CaseBundle.foreignGrant_forms_agree_iff`).
-/

namespace EstateFiling

/-! ## The bundle -/

namespace CaseBundle

variable (b : CaseBundle)

/-- Something is known of a grant made elsewhere: one was entered, or the record has
a court, a jurisdiction or a date. -/
def KnowsForeignGrant : Prop :=
  (b.overrides.value? "foreign_grant" ForeignGrant.decode).isSome = true
  ∨ Field.text b.case.foreignGrantCourt ≠ ""
  ∨ Field.text b.case.foreignGrantJurisdiction ≠ ""
  ∨ (Field.date? b.case.foreignGrantDate).isSome = true

/-- An estate holds a foreign grant if it needs one or one is known. -/
theorem isSome_foreignGrant_iff :
    b.foreignGrant.isSome = true ↔
      b.grantType.isAncillary = true ∨ b.KnowsForeignGrant := by
  unfold foreignGrant KnowsForeignGrant
  dsimp only
  rw [Option.isSome_or, Bool.or_eq_true, Option.isSome_ite]
  simp only [Bool.or_eq_true, Bool.not_eq_true', ← String.isEmpty_iff, Bool.not_eq_true,
    ne_eq, or_assoc]
  exact or_left_comm

end CaseBundle

/-! ## The boxes -/

/-- The notice ticks that the application is based on a grant made elsewhere. -/
def EstateModel.RestsOnForeignGrant (m : EstateModel) (style : StyleProfile) : Prop :=
  (m.document style .notice).Checks "will_basis" "foreign_grant"

/-- The submission ticks that a grant made elsewhere is attached. -/
def EstateModel.AttachesForeignGrant (m : EstateModel) (style : StyleProfile) : Prop :=
  (m.document style .submission).Checks "foreign_grant" "attached"

section Boxes

variable (style : StyleProfile) (m : EstateModel)

theorem EstateModel.restsOnForeignGrant_iff :
    m.RestsOnForeignGrant style ↔ m.grantType.isAncillary = true := by
  refine (m.checks_clause_iff style (t := Notice.willBasis) List.mem_cons_self
    (by decide) _).trans ?_
  simp [ClauseTable.Settles, Notice.willBasis]

theorem EstateModel.attachesForeignGrant_iff :
    m.AttachesForeignGrant style ↔ m.grantType.isAncillary = true := by
  refine (m.checks_clause_iff style (t := Submission.foreignGrant)
    (by simp [DocumentKind.passages, Submission.passages]) (by decide) _).trans ?_
  simp [ClauseTable.Settles, Submission.foreignGrant]

end Boxes

/-! ## The cover letter -/

/-- The enclosure of a grant made elsewhere. -/
def CoverLetter.foreignCopy : String := "Certified copy of the foreign grant"

/-- The cover letter lists a copy of a grant made elsewhere. -/
def EstateModel.EnclosesForeignGrant (m : EstateModel) (style : StyleProfile) : Prop :=
  CoverLetter.foreignCopy ∈
    (m.document style .registryCoverLetter).tables.flatMap (fun t => t.column 1)

/-- The letter lists the foreign grant exactly if the estate holds one. -/
theorem EstateModel.enclosesForeignGrant_iff (style : StyleProfile) (m : EstateModel) :
    m.EnclosesForeignGrant style ↔ m.foreignGrant.isSome = true :=
  m.encloses_iff style .foreignGrant

/-! ## All three forms -/

namespace CaseBundle

/-- The notice and the submission agree on the foreign grant, and the cover letter
encloses it if they tick it or one is known.  So the letter agrees with them exactly if
the grant is ancillary or no foreign grant is known. -/
theorem foreignGrant_forms_agree_iff (b : CaseBundle) (settings : DocumentSettings)
    (style : StyleProfile) :
    ((b.build settings).RestsOnForeignGrant style ↔
      (b.build settings).AttachesForeignGrant style)
    ∧ ((b.build settings).EnclosesForeignGrant style ↔
      (b.build settings).AttachesForeignGrant style ∨ b.KnowsForeignGrant)
    ∧ (((b.build settings).EnclosesForeignGrant style ↔
        (b.build settings).AttachesForeignGrant style) ↔
      (b.build settings).grantType.isAncillary = true ∨ ¬ b.KnowsForeignGrant) := by
  have held : (b.build settings).foreignGrant.isSome = true ↔
      (b.build settings).grantType.isAncillary = true ∨ b.KnowsForeignGrant :=
    b.isSome_foreignGrant_iff
  rw [EstateModel.restsOnForeignGrant_iff, EstateModel.attachesForeignGrant_iff,
    EstateModel.enclosesForeignGrant_iff, held]
  refine ⟨Iff.rfl, Iff.rfl, ?_⟩
  constructor
  · intro agree
    by_cases known : b.KnowsForeignGrant
    · exact Or.inl (agree.mp (Or.inr known))
    · exact Or.inr known
  · rintro (ancillary | unknown)
    · exact iff_of_true (Or.inl ancillary) ancillary
    · exact or_iff_left unknown

/-- The court of a foreign grant is on record, but nobody asks for an ancillary grant. -/
def recordedElsewhere : CaseBundle := { case := { foreignGrantCourt := some "High Court" } }

theorem recordedElsewhere_encloses_only :
    (recordedElsewhere.build {}).EnclosesForeignGrant .standard
    ∧ ¬ (recordedElsewhere.build {}).AttachesForeignGrant .standard
    ∧ ¬ (recordedElsewhere.build {}).RestsOnForeignGrant .standard := by
  have held : (recordedElsewhere.build {}).foreignGrant.isSome = true := by decide
  have plain : ¬ (recordedElsewhere.build {}).grantType.isAncillary = true := by decide
  rw [EstateModel.enclosesForeignGrant_iff, EstateModel.attachesForeignGrant_iff,
    EstateModel.restsOnForeignGrant_iff]
  exact ⟨held, plain, plain⟩

end CaseBundle

end EstateFiling
