import EstateFiling.Proofs.Case.NullAnswers
import EstateFiling.Proofs.Case.Precedence
import EstateFiling.Proofs.Form.PrintedTexts

/-!
# Texts entered by hand

A text on record is trimmed when the estate is built, a text entered by hand only when it is
printed.  So it does not matter whether a text is entered with blanks around it, except for
the treaty first nation of the deceased: a nation that is entered as blanks counts as one,
and without the blanks as none (`CaseBundle.document_trimTexts_iff`).
-/

namespace EstateFiling

theorem GrantType.parse?_trim (s : String) : parse? (Text.trim s) = parse? s := by
  unfold parse?
  rw [Text.trim_trim]

/-! ## Entries -/

/-- The value, trimmed if it is a text. -/
def Json.trimmed : Json → Json
  | .string s => .string (Text.trim s)
  | j => j

theorem Json.isNull_trimmed (j : Json) : j.trimmed.isNull = j.isNull := by cases j <;> rfl

namespace ManualOverrides

/-- The names under which a text is entered. -/
def textKeys : List String :=
  ["grant_type", "deceased.first_name", "deceased.middle_name", "deceased.last_name",
    "deceased.treaty_first_nation", "deceased.place_of_death", "will.signed_at",
    "family.spouse.name", "filing.registry", "filing.service_email", "filing.service_phone"]

/-- A value entered under a name, trimmed if a text belongs there. -/
def trimText (key : String) (value : Json) : Json :=
  if key ∈ textKeys then value.trimmed else value

/-- The entries with trimmed texts. -/
def trimTexts (o : ManualOverrides) : ManualOverrides :=
  ⟨o.entries.map fun e => (e.1, trimText e.1 e.2)⟩

variable (o : ManualOverrides) {key : String}

theorem get?_trimTexts (key : String) : o.trimTexts.get? key = (o.get? key).map (trimText key) := by
  have lookup : o.trimTexts.entries.lookup key = (o.entries.lookup key).map (trimText key) :=
    Json.get?_mapMembers trimText (.object o.entries) key
  have kept : (fun j : Json => !j.isNull) ∘ trimText key = fun j => !j.isNull := by
    funext j
    simp only [Function.comp_apply, trimText]
    split
    · rw [Json.isNull_trimmed]
    · rfl
  rw [get?, lookup, Option.filter_map, kept, get?]

theorem get?_trimTexts_of_notMem (other : key ∉ textKeys) : o.trimTexts.get? key = o.get? key := by
  have same : trimText key = id := funext fun _ => if_neg other
  rw [get?_trimTexts, same, Option.map_id_fun, id]

/-- What is read as a text is trimmed if it is one, and the same if it is not. -/
theorem text?_trimTexts (known : key ∈ textKeys) :
    (o.trimTexts.text? key = o.text? key ∧ ∀ s, o.get? key ≠ some (.string s))
    ∨ ∃ s, o.get? key = some (.string s) ∧ o.text? key = some s
      ∧ o.trimTexts.text? key = some (Text.trim s) := by
  have same : trimText key = Json.trimmed := funext fun _ => if_pos known
  rw [text?, text?, get?_trimTexts, same]
  cases o.get? key with
  | none => exact Or.inl ⟨rfl, by simp⟩
  | some j =>
    cases j with
    | string s => exact Or.inr ⟨s, rfl, rfl, rfl⟩
    | _ => exact Or.inl ⟨rfl, by simp⟩

/-- A text is trimmed in print, whether it was so before or not. -/
theorem trim_getD_text?_trimTexts (known : key ∈ textKeys) (otherwise : String) :
    Text.trim ((o.trimTexts.text? key).getD otherwise)
      = Text.trim ((o.text? key).getD otherwise) := by
  rcases text?_trimTexts o known with ⟨same, -⟩ | ⟨s, -, plain, trimmed⟩
  · rw [same]
  · rw [plain, trimmed]
    exact Text.trim_trim s

theorem bind_text?_trimTexts (known : key ∈ textKeys) {α : Type} {read : String → Option α}
    (trims : ∀ s, read (Text.trim s) = read s) :
    (o.trimTexts.text? key).bind read = (o.text? key).bind read := by
  rcases text?_trimTexts o known with ⟨same, -⟩ | ⟨s, -, plain, trimmed⟩
  · rw [same]
  · rw [plain, trimmed]
    exact trims s

/-- What is entered as the treaty first nation is not empty, but all blanks. -/
def NamesBlankNation : Prop :=
  ∃ s, o.get? "deceased.treaty_first_nation" = some (.string s) ∧ s ≠ ""
    ∧ Text.isBlankText s = true

/-- Only a nation of blanks is one until it is trimmed. -/
theorem isEmpty_getD_text?_trimTexts_iff (otherwise : String) :
    ((o.trimTexts.text? "deceased.treaty_first_nation").getD otherwise).isEmpty
        = ((o.text? "deceased.treaty_first_nation").getD otherwise).isEmpty
      ↔ ¬ o.NamesBlankNation := by
  have known : "deceased.treaty_first_nation" ∈ textKeys := by decide
  rcases text?_trimTexts o known with ⟨same, noText⟩ | ⟨s, given, plain, trimmed⟩
  · rw [same]
    exact iff_of_true rfl fun ⟨s, given, _⟩ => noText s given
  · have blank : o.NamesBlankNation ↔ s ≠ "" ∧ Text.isBlankText s = true := by
      simp [NamesBlankNation, given]
    rw [plain, trimmed, Option.getD_some, Option.getD_some, Text.isEmpty_trim, blank]
    by_cases empty : s = ""
    · simp [empty, Text.isBlankText]
    · have nonempty : s.isEmpty = false := by simpa using empty
      simp [empty, nonempty]

end ManualOverrides

/-! ## Estates -/

namespace CaseBundle

open ManualOverrides

variable (b : CaseBundle) (member : Bool) (settings : DocumentSettings)

/-- The bundle with trimmed texts entered. -/
def trimTexts : CaseBundle := b.withOverrides b.overrides.trimTexts

theorem grantType_trimTexts : b.trimTexts.grantType = b.grantType := by
  have named : (b.overrides.trimTexts.text? "grant_type").bind GrantType.parse?
      = (b.overrides.text? "grant_type").bind GrantType.parse? :=
    bind_text?_trimTexts b.overrides (by decide) GrantType.parse?_trim
  have present : b.overrides.trimTexts.flag? "will.exists" = b.overrides.flag? "will.exists" :=
    congrArg (·.bind flagOf?) (get?_trimTexts_of_notMem b.overrides (by decide))
  have namedGrant : b.trimTexts.namedGrant? = b.namedGrant? :=
    congrArg (·.or (b.case.grantType.bind GrantType.parse?)) named
  have hasWill : b.trimTexts.hasWill? = b.hasWill? :=
    congrArg (·.or ((b.intake.bind IntakeDraft.hasWill).or b.case.hasWill)) present
  rw [grantType, namedGrant, hasWill, grantType]

theorem deceased_trimTexts : b.trimTexts.deceased.trimmed member = b.deceased.trimmed member := by
  simp (disch := decide) only [trimTexts, withOverrides, deceased, Deceased.trimmed,
    PersonName.trimmed, value?, date?, flag?, get?_trimTexts_of_notMem, trim_getD_text?_trimTexts]

theorem will_trimTexts : b.trimTexts.will.trimmed = b.will.trimmed := by
  simp (disch := decide) only [trimTexts, withOverrides, will, hasWill?, Will.trimmed, value?,
    date?, flag?, get?_trimTexts_of_notMem, trim_getD_text?_trimTexts]

theorem family_trimTexts : b.trimTexts.family.trimmed = b.family.trimmed := by
  simp (disch := decide) only [trimTexts, withOverrides, family, payload?, Family.trimmed, value?,
    get?_trimTexts_of_notMem, trim_getD_text?_trimTexts]

theorem filing_trimTexts : b.trimTexts.filing.trimmed = b.filing.trimmed := by
  simp (disch := decide) only [trimTexts, withOverrides, filing, addressForService,
    Filing.trimmed, value?, date?, flag?, count?, get?_trimTexts_of_notMem,
    trim_getD_text?_trimTexts]

theorem follows_trimTexts {S : Type} {build : ManualOverrides → S}
    {fields : List (OverrideField S)} (h : Follows build fields) (nonempty : fields ≠ [])
    (apart : ∀ f ∈ fields, f.key ∉ textKeys) (o : ManualOverrides) :
    build o.trimTexts = build o := by
  refine h.congr nonempty fun f hf => ?_
  rw [OverrideField.read, OverrideField.read, get?_trimTexts_of_notMem o (apart f hf)]

theorem trim_registryOr_congr {r r' : String} (same : Text.trim r' = Text.trim r)
    (default : String) :
    Text.trim (registryOr default r') = Text.trim (registryOr default r) := by
  have blank : Text.isBlankText r' = Text.isBlankText r := by
    rw [← Text.isBlankText_trim, same, Text.isBlankText_trim]
  unfold registryOr
  rw [blank]
  split
  · rfl
  · exact same

theorem model_trimTexts : b.trimTexts.model.trimmed member = b.model.trimmed member := by
  have grant := b.grantType_trimTexts
  have other : foreignField.key ∉ textKeys := by decide
  have foreign : b.trimTexts.foreignGrant = b.foreignGrant :=
    foreignGrant_congr (b := b)
      (congrArg (·.bind foreignField.coerce) (get?_trimTexts_of_notMem b.overrides other)) grant
  have applicants : b.trimTexts.applicants = b.applicants :=
    follows_trimTexts (applicants_follows b) (by simp [applicantsFields]) (by decide) _
  have otherExecutors : b.trimTexts.otherExecutors = b.otherExecutors :=
    follows_trimTexts (otherExecutors_follows b) (by simp [otherExecutorsFields]) (by decide) _
  have assets : b.trimTexts.assets = b.assets :=
    follows_trimTexts (assets_follows b) (by simp [assetsFields]) (by decide) _
  have deliveries : b.trimTexts.deliveries = b.deliveries :=
    follows_trimTexts (deliveries_follows b) (by simp [deliveriesFields]) (by decide) _
  have citors : b.trimTexts.citors = b.citors :=
    follows_trimTexts (citors_follows b) (by simp [citorsFields]) (by decide) _
  have creditors : b.trimTexts.creditors = b.creditors :=
    follows_trimTexts (creditors_follows b) (by simp [creditorsFields]) (by decide) _
  have will : (if b.grantType.impliesWill then some b.trimTexts.will else none).map Will.trimmed
      = (if b.grantType.impliesWill then some b.will else none).map Will.trimmed := by
    split
    · exact congrArg some b.will_trimTexts
    · rfl
  rw [EstateModel.trimmed, EstateModel.trimmed]
  simp only [model, grant, foreign, applicants, otherExecutors, assets, deliveries, citors,
    creditors, will, b.deceased_trimTexts, b.family_trimTexts, b.filing_trimTexts]

theorem trimmed_registryOr_congr {f f' : Filing} (same : f'.trimmed = f.trimmed)
    (default : String) :
    Filing.trimmed { f' with registry := registryOr default f'.registry }
      = Filing.trimmed { f with registry := registryOr default f.registry } := by
  simp only [Filing.trimmed, Filing.mk.injEq] at same ⊢
  exact ⟨trim_registryOr_congr same.1 default, same.2⟩

/-- The texts of the estate are the same when they are trimmed. -/
theorem build_trimTexts :
    (b.trimTexts.build settings).trimmed member = (b.build settings).trimmed member := by
  have same := b.model_trimTexts member
  simp only [EstateModel.trimmed, EstateModel.mk.injEq] at same
  obtain ⟨deceased, grant, will, applicants, others, family, assets, deliveries, filing, citors,
    creditors, foreign⟩ := same
  simp only [EstateModel.trimmed, build, EstateModel.mk.injEq]
  exact ⟨deceased, grant, will, applicants, others, family, assets, deliveries,
    trimmed_registryOr_congr filing _, citors, creditors, foreign⟩

/-! ## Documents -/

theorem treatyFirstNationMember_trimTexts_iff :
    (b.trimTexts.build settings).deceased.indigenous.treatyFirstNationMember
        = (b.build settings).deceased.indigenous.treatyFirstNationMember
      ↔ ¬ b.overrides.NamesBlankNation :=
  Bool.not_inj_iff.trans
    (isEmpty_getD_text?_trimTexts_iff b.overrides (Field.text b.case.treatyFirstNation))

/-- Blanks around the texts that are entered by hand do not matter for a document, unless it
tells whether the deceased was a member of a treaty first nation and what is entered as the
nation is all blanks. -/
theorem document_trimTexts_iff (kind : DocumentKind) :
    b.trimTexts.document settings kind = b.document settings kind ↔
      ((b.build settings).TellsMembership kind → ¬ b.overrides.NamesBlankNation) := by
  have own (member : Bool) (told : member
      = (b.trimTexts.build settings).deceased.indigenous.treatyFirstNationMember) :
      b.trimTexts.document settings kind
        = ((b.build settings).trimmed member).document settings.style kind := by
    rw [← b.build_trimTexts member settings]
    exact (EstateModel.document_trimmed settings.style fun _ => told).symm
  rw [own _ rfl, ← b.treatyFirstNationMember_trimTexts_iff settings]
  exact EstateModel.document_trimmed_iff settings.style

/-- A case in which blanks are entered for the treaty first nation. -/
def blankNation : CaseBundle :=
  { overrides := ⟨[("deceased.treaty_first_nation", .string "   ")]⟩ }

/-- The submission says member for the blanks, and not a member without them. -/
theorem blankNation_trimTexts_ne :
    (blankNation.document {} .submission).Checks "treaty_first_nation" "member"
    ∧ ¬ (blankNation.trimTexts.document {} .submission).Checks "treaty_first_nation" "member"
    ∧ blankNation.trimTexts.document {} .submission ≠ blankNation.document {} .submission := by
  have member : (blankNation.document {} .submission).Checks "treaty_first_nation" "member" :=
    (Submission.checks_member_iff _ (blankNation.build {})).mpr (by decide)
  have trimmed :
      ¬ (blankNation.trimTexts.document {} .submission).Checks "treaty_first_nation" "member" :=
    fun checks => absurd
      ((Submission.checks_member_iff _ (blankNation.trimTexts.build {})).mp checks) (by decide)
  exact ⟨member, trimmed, fun same => trimmed (same ▸ member)⟩

end CaseBundle

end EstateFiling
