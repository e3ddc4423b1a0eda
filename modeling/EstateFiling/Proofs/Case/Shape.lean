import EstateFiling.Case.Bundle
import EstateFiling.Proofs.Text.Trimming

/-!
# The shape of an estate that is built

What every estate that is built from a bundle satisfies, whatever was entered and
whatever is on record (`CaseBundle.build_shape`): when there is a will, which grant
is asked for, that an ancillary grant comes with the grant made elsewhere, that an
address for service prints as a text, and what the default registry changes.

Whether there is a will is asked twice, and silence counts differently.  If nobody
says so, a grant that is named and rests on a will has a will that exists; but the
grant that is chosen where none is named is administration without a will.
-/

namespace EstateFiling

/-! ## Addresses -/

namespace Address

/-- The first line is empty when there is neither a box nor a street. -/
theorem isEmpty_firstLine (a : Address) :
    a.firstLine.isEmpty = (Text.isBlankText a.poBox && Text.isBlankText a.street) := by
  have box : ("PO Box " ++ Text.trim a.poBox).isEmpty = false := by
    rw [Bool.eq_false_iff, ne_eq, String.isEmpty_iff, String.append_eq_empty_iff]
    exact fun h => absurd h.1 (by decide)
  rw [← Text.isEmpty_trim a.poBox, ← Text.isEmpty_trim a.street]
  unfold firstLine
  dsimp only
  cases poBox : (Text.trim a.poBox).isEmpty with
  | true => rw [if_pos rfl, Bool.true_and]
  | false =>
    rw [if_neg Bool.false_ne_true, Bool.false_and]
    split
    · exact poBox
    · exact box

/-- An address is empty exactly when each part of its text is. -/
theorem isEmpty_eq_all (a : Address) :
    a.isEmpty = (a.firstLine :: [a.city, a.region, a.country, a.postalCode].map Text.trim).all
      String.isEmpty := by
  have trimmed : String.isEmpty ∘ Text.trim = Text.isBlankText := funext Text.isEmpty_trim
  rw [List.all_cons, List.all_map, isEmpty_firstLine, trimmed, Bool.and_assoc]
  rfl

/-- An address that is not empty prints as a text. -/
theorem text_ne_empty {a : Address} (h : a.isEmpty = false) : a.text ≠ "" := by
  rw [isEmpty_eq_all] at h
  obtain ⟨part, hpart, nonempty⟩ := List.all_eq_false.mp h
  refine Text.join_ne_empty (List.mem_filter.mpr ⟨hpart, ?_⟩) ?_
  · rw [Bool.eq_false_iff.mpr nonempty]
    rfl
  · rwa [ne_eq, ← String.isEmpty_iff]

end Address

/-! ## What a bundle says -/

namespace CaseBundle

variable (b : CaseBundle) (settings : DocumentSettings)

/-- What is said on whether there is a will: by what was entered, in the interview,
and on record. -/
def willAnswers : List (Option Bool) :=
  [b.overrides.flag? "will.exists", b.intake.bind IntakeDraft.hasWill, b.case.hasWill]

/-- The first answer that was given. -/
def willAnswer? : Option Bool := b.willAnswers.findSome? id

theorem hasWill?_eq : b.hasWill? = b.willAnswer? := by
  unfold hasWill? willAnswer? willAnswers
  cases b.overrides.flag? "will.exists" <;> cases b.intake.bind IntakeDraft.hasWill <;>
    cases b.case.hasWill <;> rfl

/-- Neither what was entered nor the record names a grant. -/
structure NamesNoGrant : Prop where
  entered : (b.overrides.text? "grant_type").bind GrantType.parse? = none
  recorded : b.case.grantType.bind GrantType.parse? = none

theorem grantType_of_namesNoGrant (h : b.NamesNoGrant) :
    b.grantType = if b.willAnswer? = some true then .probate else .administrationWithoutWill := by
  unfold grantType namedGrant?
  rw [h.entered, h.recorded, hasWill?_eq]
  cases b.willAnswer? with
  | none => rfl
  | some answer => cases answer <;> rfl

theorem will_model : b.model.will = if b.grantType.impliesWill then some b.will else none := rfl

theorem present_of_will {w : Will} (h : b.model.will = some w) :
    w.present = b.willAnswer?.getD true := by
  rw [will_model] at h
  split at h
  · obtain rfl := Option.some.inj h
    exact congrArg (Option.getD · true) b.hasWill?_eq
  · cases h

/-- The will counts under a grant that rests on one, unless the first answer denies it. -/
theorem willExists_model :
    b.model.willExists = (b.grantType.impliesWill && b.willAnswer?.getD true) := by
  rw [← hasWill?_eq]
  unfold EstateModel.willExists EstateModel.existingWill?
  rw [will_model]
  change Option.isSome (if b.grantType.impliesWill then _ else _) = _
  cases b.grantType.impliesWill with
  | false => rfl
  | true =>
    rw [if_pos rfl, if_pos rfl, Option.isSome_filter]
    rfl

/-- Where nobody names a grant, the will counts only if the first answer says that
there is one. -/
theorem willExists_of_namesNoGrant (h : b.NamesNoGrant) :
    b.model.willExists = true ↔ b.willAnswer? = some true := by
  rw [willExists_model, grantType_of_namesNoGrant b h]
  cases b.willAnswer? with
  | none => decide
  | some answer => cases answer <;> decide

theorem foreignGrant_of_isAncillary (h : b.grantType.isAncillary = true) :
    b.foreignGrant.isSome = true := by
  unfold foreignGrant
  dsimp only
  rw [h, Bool.true_or, if_pos rfl, Option.isSome_or]
  exact Bool.or_true _

theorem text_addressForService_ne_empty {a : Address} (h : b.addressForService = some a) :
    a.text ≠ "" := by
  have kept := (Option.filter_eq_some_iff.mp h).2
  exact Address.text_ne_empty (by simpa using kept)

/-! ## The default registry -/

theorem registryOr_ne {default registry : String} (h : registryOr default registry ≠ registry) :
    Text.isBlankText registry = true := by
  unfold registryOr at h
  by_contra shown
  exact h (if_neg fun both => shown (Bool.and_eq_true_iff.mp both).1)

theorem isBlankText_registryOr {default : String} (registry : String)
    (h : Text.isBlankText default = false) :
    Text.isBlankText (registryOr default registry) = false := by
  unfold registryOr
  split
  · exact h
  · rename_i kept
    cases shown : Text.isBlankText registry with
    | false => rfl
    | true =>
      -- A default that is not blank is not empty either.
      have nonempty : default.isEmpty = false := by
        rw [Bool.eq_false_iff, ne_eq, String.isEmpty_iff]
        rintro rfl
        cases h
      rw [shown, nonempty] at kept
      exact absurd rfl kept

/-! ## Every estate that is built -/

/-- What can be relied on in an estate that is built. -/
structure Shape (m : EstateModel) : Prop where
  /-- There is a will exactly under a grant that rests on one. -/
  will : m.will.isSome = m.grantType.impliesWill
  /-- The will exists if the first answer says so, or nobody answers. -/
  present : ∀ w, m.will = some w → w.present = b.willAnswer?.getD true
  /-- A grant that nobody names is probate if the first answer says that there is a
  will, and administration without a will otherwise. -/
  grant : b.NamesNoGrant →
    m.grantType = if b.willAnswer? = some true then .probate else .administrationWithoutWill
  /-- Where nobody names a grant, the will counts if the first answer says that there
  is one. -/
  willExists : b.NamesNoGrant → (m.willExists = true ↔ b.willAnswer? = some true)
  /-- An ancillary grant comes with the grant made elsewhere. -/
  ancillary : m.grantType.isAncillary = true → m.foreignGrant.isSome = true
  /-- An address for service prints as a text. -/
  address : ∀ a, m.filing.addressForService = some a → a.text ≠ ""
  /-- The settings change the registry only. -/
  rest : m = { b.model with filing := { b.model.filing with registry := m.filing.registry } }
  /-- The default registry takes the place of a blank one. -/
  replaced : m.filing.registry ≠ b.model.filing.registry →
    Text.isBlankText b.model.filing.registry = true
  /-- With a default registry the registry is not blank. -/
  filled : Text.isBlankText settings.defaultRegistry = false →
    Text.isBlankText m.filing.registry = false

/-- Every estate that is built has the shape. -/
theorem build_shape : b.Shape settings (b.build settings) where
  will := by
    show (if b.grantType.impliesWill then some b.will else none).isSome = b.grantType.impliesWill
    cases b.grantType.impliesWill <;> rfl
  present := fun _ hw => b.present_of_will hw
  grant := b.grantType_of_namesNoGrant
  willExists := b.willExists_of_namesNoGrant
  ancillary := b.foreignGrant_of_isAncillary
  address := fun _ ha => b.text_addressForService_ne_empty ha
  rest := rfl
  replaced := registryOr_ne
  filled := isBlankText_registryOr _

/-- Nobody says that there is no will, but the grant does not rest on one. -/
theorem silence_not_probate :
    ({} : CaseBundle).NamesNoGrant
    ∧ ({} : CaseBundle).willAnswer?.getD true = true
    ∧ (({} : CaseBundle).build {}).grantType ≠ .probate
    ∧ (({} : CaseBundle).build {}).willExists = false :=
  ⟨⟨rfl, rfl⟩, rfl, by decide, by decide⟩

end CaseBundle

end EstateFiling
