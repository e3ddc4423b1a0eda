import EstateFiling.Proofs.Form.Boxes
import Mathlib.Data.List.Nodup

/-!
# One box for each choice

Every passage of every form has exactly one box checked, that of the clause which
its table selects for the estate (`EstateModel.document_shows_choice`).  The only
boxes outside this rule are those of the affidavit of delivery that are
independent of each other (`DeliveryAffidavit.independentBoxes`).

*Governing clauses.*  `Governs` relates the identifier of a group to the
identifier of the clause its table selects.  Most tables speak of the whole
estate, and a group carries the name of its table.  The tables of an applicant's
standing and priority speak of one member of the deponents, and the group carries
the member's position as well.  A group has at most one governing clause
(`Governs.unique`).

*Exclusive clauses.*  No two clauses of a table apply to the same estate
(`DocumentKind.passages_exclusive`), so the order of the clauses decides nothing.
The clauses of `Notice.willBasis` exclude each other only because a will that
exists comes with a grant that rests on one.
-/

namespace EstateFiling

/-! ## The passages of each form -/

/-- The passages of the notice. -/
def Notice.passages : List (ClauseTable EstateModel) :=
  [willBasis, electronicWillCopy, serviceAddress, indigenousNotice]

/-- The passages of the submission. -/
def Submission.passages : List (ClauseTable EstateModel) :=
  [grantType, nisgaa, treatyFirstNation, domicile, certifiedCopies, affidavitMode,
    deliveryAffidavit, willsSearch, willDocuments, assetsAffidavit, translation, renunciations,
    foreignGrant]

/-- The passages of the short affidavit that speak of the estate. -/
def ShortAffidavit.passages : List (ClauseTable EstateModel) :=
  [willRecital, codicils, otherExecutors, alterations, referencedDocuments]

/-- The passages of the affidavit without a will that speak of the estate. -/
def AdministrationAffidavit.passages : List (ClauseTable EstateModel) :=
  [spouseStatus, children, intestateSuccessors]

/-- The passages of the affidavit of delivery. -/
def DeliveryAffidavit.passages : List (ClauseTable EstateModel) :=
  [willCopy, electronicWillDemand]

/-- The boxes of the affidavit of delivery that are independent of each other. -/
def DeliveryAffidavit.independentBoxes : List String :=
  ["delivery_postal", "delivery_personal", "delivery_electronic", "electronic_acknowledged"]

/-- The passages of the affidavit of assets. -/
def AssetsAffidavit.passages : List (ClauseTable EstateModel) := [domicile, outsideProperty]

/-- The passages of the checklist. -/
def ChecklistLetter.passages : List (ClauseTable EstateModel) :=
  [deliveryStep, earliestSubmission, creditorNotice]

/-- The passages of a kind of document that speak of the estate. -/
def DocumentKind.passages : DocumentKind → List (ClauseTable EstateModel)
  | .notice => Notice.passages
  | .submission => Submission.passages
  | .shortAffidavit => ShortAffidavit.passages
  | .administrationAffidavit => AdministrationAffidavit.passages
  | .deliveryAffidavit => DeliveryAffidavit.passages
  | .assetsAffidavit => AssetsAffidavit.passages
  | .registryCoverLetter => []
  | .filingChecklistLetter => ChecklistLetter.passages

/-! ## Governing clauses -/

/-- The clause that is selected for the group with an identifier, in the
documents of a kind for an estate. -/
inductive Governs (m : EstateModel) (kind : DocumentKind) : String → String → Prop where
  /-- A passage that speaks of the estate. -/
  | passage {t : ClauseTable EstateModel} (ht : t ∈ kind.passages) :
      Governs m kind t.group (t.select m).active
  /-- The standing of a deponent, by position. -/
  | standing (hkind : kind = .shortAffidavit) {k : Nat} {a : Applicant}
      (ha : (Deponents.together m).membersOrBlank[k]? = some a) :
      Governs m kind (Form.numberedId ShortAffidavit.standing.group (k + 1))
        (ShortAffidavit.standing.select a).active
  /-- The priority of a deponent, by position. -/
  | priority (hkind : kind = .administrationAffidavit) {k : Nat} {a : Applicant}
      (ha : (Deponents.together m).membersOrBlank[k]? = some a) :
      Governs m kind (Form.numberedId AdministrationAffidavit.priority.group (k + 1))
        (AdministrationAffidavit.priority.select
          (AdministrationAffidavit.PriorityFacts.of m a)).active

/-- No two passages of a kind share a name. -/
theorem DocumentKind.passages_nodup (kind : DocumentKind) :
    (kind.passages.map ClauseTable.group).Nodup := by
  cases kind <;> decide

/-- A table of the kind is known by its name. -/
theorem DocumentKind.passages_ext {kind : DocumentKind} {t u : ClauseTable EstateModel}
    (ht : t ∈ kind.passages) (hu : u ∈ kind.passages) (h : t.group = u.group) : t = u :=
  List.inj_on_of_nodup_map kind.passages_nodup ht hu h

/-- The name of a passage that speaks of the estate has no dot, so it is no name
with a position. -/
theorem DocumentKind.group_ne_numberedId {kind : DocumentKind} {t : ClauseTable EstateModel}
    (ht : t ∈ kind.passages) (s : String) (k : Nat) : t.group ≠ Form.numberedId s k := by
  have dotless : ∀ g ∈ kind.passages.map ClauseTable.group, '.' ∉ g.toList := by
    cases kind <;> decide
  intro h
  refine dotless t.group (List.mem_map_of_mem ht) ?_
  rw [h]
  simp [Form.numberedId]

theorem Form.numberedId_inj {s : String} {i j : Nat} (h : numberedId s i = numberedId s j) :
    i = j := by
  have texts : i.repr = j.repr := (String.append_right_inj _).mp h
  have digits : Nat.toDigits 10 i = Nat.toDigits 10 j := by
    rw [← Nat.toList_repr, ← Nat.toList_repr, texts]
  rw [← Nat.ofDigitChars_ten_toDigits (n := i), digits, Nat.ofDigitChars_ten_toDigits]

/-- At most one clause governs a group. -/
theorem Governs.unique {m : EstateModel} {kind : DocumentKind} {id a b : String}
    (ha : Governs m kind id a) (hb : Governs m kind id b) : a = b := by
  cases ha with
  | @passage t ht =>
      generalize hid : t.group = id at hb
      cases hb with
      | passage hu => rw [DocumentKind.passages_ext ht hu hid]
      | standing => exact absurd hid (DocumentKind.group_ne_numberedId ht _ _)
      | priority => exact absurd hid (DocumentKind.group_ne_numberedId ht _ _)
  | @standing hkind k x hx =>
      generalize hid : Form.numberedId ShortAffidavit.standing.group (k + 1) = id at hb
      cases hb with
      | passage hu => exact absurd hid.symm (DocumentKind.group_ne_numberedId hu _ _)
      | @standing _ l y hy =>
          obtain rfl : k = l := Nat.succ.inj (Form.numberedId_inj hid)
          obtain rfl : x = y := Option.some.inj (hx.symm.trans hy)
          rfl
      | priority h => rw [hkind] at h; cases h
  | @priority hkind k x hx =>
      generalize hid : Form.numberedId AdministrationAffidavit.priority.group (k + 1) = id at hb
      cases hb with
      | passage hu => exact absurd hid.symm (DocumentKind.group_ne_numberedId hu _ _)
      | standing h => rw [hkind] at h; cases h
      | @priority _ l y hy =>
          obtain rfl : k = l := Nat.succ.inj (Form.numberedId_inj hid)
          obtain rfl : x = y := Option.some.inj (hx.symm.trans hy)
          rfl

/-! ## Exclusive clauses -/

/-- A will that exists comes with a grant that rests on one. -/
theorem EstateModel.impliesWill_of_willExists {m : EstateModel} (h : m.willExists = true) :
    m.grantType.impliesWill = true := by
  unfold willExists existingWill? at h
  split at h
  · assumption
  · exact absurd h (by simp)

theorem Notice.willBasis_exclusive (m : EstateModel) : willBasis.Exclusive m := by
  have rests := @EstateModel.impliesWill_of_willExists m
  simp only [ClauseTable.Exclusive, willBasis, List.pairwise_cons, List.mem_cons,
    List.not_mem_nil]
  grind

theorem Submission.grantType_exclusive (m : EstateModel) : grantType.Exclusive m := by
  unfold ClauseTable.Exclusive grantType
  rw [List.pairwise_map]
  refine List.Pairwise.imp (fun {g h} hne => ?_) (by decide : GrantType.all.Nodup)
  intro hg
  exact decide_eq_false fun hh => hne ((of_decide_eq_true hg).symm.trans hh)

theorem ShortAffidavit.standing_exclusive (a : Applicant) : standing.Exclusive a := by
  cases h : a.namedInWill <;> simp [ClauseTable.Exclusive, standing, h]

theorem AdministrationAffidavit.priority_exclusive (f : PriorityFacts) :
    priority.Exclusive f := by
  obtain ⟨relationship, spouse⟩ := f
  cases relationship <;> cases spouse <;> simp [ClauseTable.Exclusive, priority]

theorem Notice.passages_exclusive (m : EstateModel) : ∀ t ∈ passages, t.Exclusive m := by
  simp only [passages, List.forall_mem_cons]
  refine ⟨willBasis_exclusive m, List.pairwise_singleton _ _, List.pairwise_singleton _ _,
    ?indigenous, List.forall_mem_nil _⟩
  case indigenous =>
    cases h : m.deceased.indigenous.nisgaaCitizen <;>
      simp [ClauseTable.Exclusive, indigenousNotice, h]

theorem Submission.affidavitMode_exclusive (m : EstateModel) : affidavitMode.Exclusive m := by
  cases hj : m.filing.jointAffidavit <;> cases hs : m.filing.supplementalAffidavit <;>
    cases ho : m.isSoleApplicant <;> simp [ClauseTable.Exclusive, affidavitMode, hj, hs, ho]

theorem Submission.deliveryAffidavit_exclusive (m : EstateModel) :
    deliveryAffidavit.Exclusive m := by
  cases hw : m.filing.deliveryWaived <;> cases hd : m.deliveries.isEmpty <;>
    simp [ClauseTable.Exclusive, deliveryAffidavit, hw, hd]

theorem Submission.willDocuments_exclusive (m : EstateModel) : willDocuments.Exclusive m := by
  cases he : m.willExists <;> cases ho : m.will.any Will.originalAvailable <;>
    simp [ClauseTable.Exclusive, willDocuments, he, ho]

theorem Submission.passages_exclusive (m : EstateModel) : ∀ t ∈ passages, t.Exclusive m := by
  simp only [passages, List.forall_mem_cons]
  exact ⟨grantType_exclusive m, ClauseTable.exclusive_of_complement rfl,
    ClauseTable.exclusive_of_complement rfl, ClauseTable.exclusive_of_complement rfl,
    List.pairwise_singleton _ _, affidavitMode_exclusive m, deliveryAffidavit_exclusive m,
    ClauseTable.exclusive_of_complement rfl, willDocuments_exclusive m,
    ClauseTable.exclusive_of_complement rfl, List.pairwise_singleton _ _,
    ClauseTable.exclusive_of_complement rfl, ClauseTable.exclusive_of_complement rfl,
    List.forall_mem_nil _⟩

theorem ShortAffidavit.passages_exclusive (m : EstateModel) :
    ∀ t ∈ passages, t.Exclusive m := by
  simp only [passages, List.forall_mem_cons]
  refine ⟨List.pairwise_singleton _ _, List.pairwise_singleton _ _, List.pairwise_singleton _ _,
    ?condition, List.pairwise_singleton _ _, List.forall_mem_nil _⟩
  case condition =>
    cases h : m.will with
    | none => simp [ClauseTable.Exclusive, alterations, h]
    | some w => cases ho : w.hasObliterations <;> simp [ClauseTable.Exclusive, alterations, h, ho]

theorem AdministrationAffidavit.passages_exclusive (m : EstateModel) :
    ∀ t ∈ passages, t.Exclusive m := by
  simp only [passages, List.forall_mem_cons]
  refine ⟨?spouse, List.pairwise_singleton _ _, List.pairwise_singleton _ _,
    List.forall_mem_nil _⟩
  case spouse =>
    cases h : m.family.spouse.status <;> simp [ClauseTable.Exclusive, spouseStatus, h]

theorem DeliveryAffidavit.passages_exclusive (m : EstateModel) :
    ∀ t ∈ passages, t.Exclusive m := by
  simp only [passages, List.forall_mem_cons]
  refine ⟨?copy, List.pairwise_singleton _ _, List.forall_mem_nil _⟩
  case copy =>
    cases h : m.will with
    | none => simp [ClauseTable.Exclusive, willCopy, h]
    | some w => cases he : w.electronic <;> simp [ClauseTable.Exclusive, willCopy, h, he]

theorem AssetsAffidavit.passages_exclusive (m : EstateModel) :
    ∀ t ∈ passages, t.Exclusive m := by
  simp only [passages, List.forall_mem_cons]
  exact ⟨List.pairwise_singleton _ _, List.pairwise_singleton _ _, List.forall_mem_nil _⟩

theorem ChecklistLetter.passages_exclusive (m : EstateModel) :
    ∀ t ∈ passages, t.Exclusive m := by
  simp only [passages, List.forall_mem_cons]
  refine ⟨?step, List.pairwise_singleton _ _, List.pairwise_singleton _ _,
    List.forall_mem_nil _⟩
  case step =>
    cases h : m.filing.deliveryWaived <;> simp [ClauseTable.Exclusive, deliveryStep, h]

/-- No two clauses of a passage that speaks of the estate apply to the same
estate. -/
theorem DocumentKind.passages_exclusive (kind : DocumentKind) (m : EstateModel) :
    ∀ t ∈ kind.passages, t.Exclusive m := by
  cases kind with
  | notice => exact Notice.passages_exclusive m
  | submission => exact Submission.passages_exclusive m
  | shortAffidavit => exact ShortAffidavit.passages_exclusive m
  | administrationAffidavit => exact AdministrationAffidavit.passages_exclusive m
  | deliveryAffidavit => exact DeliveryAffidavit.passages_exclusive m
  | assetsAffidavit => exact AssetsAffidavit.passages_exclusive m
  | registryCoverLetter => exact List.forall_mem_nil _
  | filingChecklistLetter => exact ChecklistLetter.passages_exclusive m

/-! ## Passages that show their clause -/

/-- The group shows what one of the tables selects for the estate, under the
table's name. -/
def CheckboxGroup.ShowsPassage (g : CheckboxGroup) (tables : List (ClauseTable EstateModel))
    (m : EstateModel) : Prop :=
  ∃ t ∈ tables, g.id = t.group ∧ g.Shows (t.select m).active

variable (style : StyleProfile) (m : EstateModel)

/-- A printed passage shows its table's clause under the table's name. -/
theorem Compose.passageGroup_showsPassage {tables : List (ClauseTable EstateModel)}
    {t : ClauseTable EstateModel} {options : List (String × String)} {caption : Option String}
    (ht : t ∈ tables) (names : List String) (named : options.map Prod.fst = names)
    (served : t.ServedBy names) :
    (passageGroup style t m options caption).ShowsPassage tables m :=
  ⟨t, ht, rfl, choiceGroup_shows_select style t.group m names named served⟩

theorem Notice.showsPassage :
    ∀ g ∈ (document style m).checkboxGroups, g.ShowsPassage passages m := by
  rw [checkboxGroups_document]
  simp only [List.forall_mem_append, List.forall_mem_cons]
  refine ⟨⟨?basis, ?copy⟩, ?service, ?indigenous, List.forall_mem_nil _⟩
  case basis =>
    exact Compose.passageGroup_showsPassage style m (by simp [passages])
      ["no_will", "physical_will", "electronic_will", "foreign_grant", "undetermined"]
      rfl (by decide)
  case copy =>
    -- The passage is printed for an electronic will only.
    intro g hg
    split at hg
    · obtain rfl := List.mem_singleton.mp hg
      exact Compose.passageGroup_showsPassage style m (by simp [passages])
        ["demanded", "copy_attached"] rfl (by decide)
    · cases hg
  case service =>
    exact Compose.passageGroup_showsPassage style m (by simp [passages])
      ["mailing", "distinct"] rfl (by decide)
  case indigenous =>
    exact Compose.passageGroup_showsPassage style m (by simp [passages])
      ["nisgaa", "treaty_first_nation", "none"] rfl (by decide)

theorem Submission.showsPassage_deceasedPart :
    ∀ g ∈ (deceasedPart style m).checkboxGroups, g.ShowsPassage passages m := by
  rw [checkboxGroups_deceasedPart]
  simp only [List.forall_mem_cons]
  refine ⟨?grant, ?nisgaa, ?treaty, ?domicile, List.forall_mem_nil _⟩
  case grant =>
    exact Compose.passageGroup_showsPassage style m (by simp [passages])
      (GrantType.all.map GrantType.id) rfl (by decide)
  case nisgaa =>
    exact Compose.passageGroup_showsPassage style m (by simp [passages])
      ["nisgaa_citizen", "not_nisgaa_citizen"] rfl (by decide)
  case treaty =>
    exact Compose.passageGroup_showsPassage style m (by simp [passages])
      ["member", "not_member"] rfl (by decide)
  case domicile =>
    exact Compose.passageGroup_showsPassage style m (by simp [passages])
      ["domiciled", "not_domiciled"] rfl (by decide)

theorem Submission.showsPassage_applicantPart :
    ∀ g ∈ (applicantPart style m).checkboxGroups, g.ShowsPassage passages m := by
  rw [checkboxGroups_applicantPart, List.forall_mem_singleton]
  exact Compose.passageGroup_showsPassage style m (by simp [passages])
    ["requested", "none_requested"] rfl (by decide)

theorem Submission.showsPassage_documentsPart :
    ∀ g ∈ (documentsPart style m).checkboxGroups, g.ShowsPassage passages m := by
  rw [checkboxGroups_documentsPart]
  simp only [List.forall_mem_cons]
  refine ⟨?mode, ?delivery, ?search, ?will, ?assets, ?translation, ?renunciations, ?foreign,
    List.forall_mem_nil _⟩
  case mode =>
    exact Compose.passageGroup_showsPassage style m (by simp [passages])
      ["single_applicant", "separate_affidavits", "joint_affidavit", "supplemental_p8"]
      rfl (by decide)
  case delivery =>
    exact Compose.passageGroup_showsPassage style m (by simp [passages])
      ["filed", "waived", "not_filed"] rfl (by decide)
  case search =>
    exact Compose.passageGroup_showsPassage style m (by simp [passages])
      ["filed", "not_filed"] rfl (by decide)
  case will =>
    exact Compose.passageGroup_showsPassage style m (by simp [passages])
      ["originals", "copies", "no_will"] rfl (by decide)
  case assets =>
    exact Compose.passageGroup_showsPassage style m (by simp [passages])
      ["filed", "not_filed"] rfl (by decide)
  case translation =>
    exact Compose.passageGroup_showsPassage style m (by simp [passages])
      ["required", "not_required"] rfl (by decide)
  case renunciations =>
    exact Compose.passageGroup_showsPassage style m (by simp [passages])
      ["filed", "none"] rfl (by decide)
  case foreign =>
    exact Compose.passageGroup_showsPassage style m (by simp [passages])
      ["attached", "not_applicable"] rfl (by decide)

theorem Submission.showsPassage :
    ∀ g ∈ (document style m).checkboxGroups, g.ShowsPassage passages m := by
  rw [checkboxGroups_document]
  simp only [List.forall_mem_append]
  exact ⟨⟨showsPassage_deceasedPart style m, showsPassage_applicantPart style m⟩,
    showsPassage_documentsPart style m⟩

theorem AssetsAffidavit.showsPassage :
    ∀ g ∈ (document style m).checkboxGroups, g.ShowsPassage passages m := by
  rw [checkboxGroups_document]
  simp only [List.forall_mem_cons]
  refine ⟨?domicile, ?outside, List.forall_mem_nil _⟩
  case domicile =>
    exact Compose.passageGroup_showsPassage style m (by simp [passages])
      ["domiciled", "not_domiciled"] rfl (by decide)
  case outside =>
    exact Compose.passageGroup_showsPassage style m (by simp [passages])
      ["has_outside", "no_outside"] rfl (by decide)

theorem ChecklistLetter.showsPassage :
    ∀ g ∈ (document style m).checkboxGroups, g.ShowsPassage passages m := by
  rw [checkboxGroups_document]
  simp only [List.forall_mem_cons]
  refine ⟨?step, ?day, ?creditors, List.forall_mem_nil _⟩
  case step =>
    exact Compose.passageGroup_showsPassage style m (by simp [passages])
      ["complete", "waived", "outstanding"] rfl (by decide)
  case day =>
    exact Compose.passageGroup_showsPassage style m (by simp [passages])
      ["scheduled", "not_scheduled"] rfl (by decide)
  case creditors =>
    exact Compose.passageGroup_showsPassage style m (by simp [passages])
      ["listed", "none_known"] rfl (by decide)

/-! ### Independent boxes -/

/-- The boxes of a method are independent of each other. -/
theorem DeliveryAffidavit.id_mem_independentBoxes (method : DeliveryMethod)
    {g : CheckboxGroup} (hg : g ∈ methodGroups style m method) : g.id ∈ independentBoxes := by
  unfold methodGroups at hg
  rcases List.mem_cons.mp hg with rfl | hg
  · show boxId method ∈ independentBoxes
    cases method <;> decide
  · split at hg
    · cases hg
    · split at hg
      · obtain rfl := List.mem_singleton.mp hg
        show "electronic_acknowledged" ∈ independentBoxes
        decide
      · cases hg

theorem DeliveryAffidavit.showsPassage :
    ∀ g ∈ (document style m).checkboxGroups,
      g.id ∉ independentBoxes → g.ShowsPassage passages m := by
  rw [checkboxGroups_document]
  simp only [List.forall_mem_append, List.forall_mem_cons]
  refine ⟨?methods, ?copy, ?demand, List.forall_mem_nil _⟩
  case methods =>
    intro g hg independent
    obtain ⟨method, _, hg⟩ := List.mem_flatMap.mp hg
    exact absurd (id_mem_independentBoxes style m method hg) independent
  case copy =>
    intro _
    exact Compose.passageGroup_showsPassage style m (by simp [passages])
      ["will_copy_attached", "electronic_will_copy", "no_will"] rfl (by decide)
  case demand =>
    intro _
    exact Compose.passageGroup_showsPassage style m (by simp [passages])
      ["demanded", "not_demanded"] rfl (by decide)

/-! ### Boxes of the deponents -/

/-- The group shows the clause that governs it. -/
def CheckboxGroup.ShowsGoverning (g : CheckboxGroup) (m : EstateModel) (kind : DocumentKind) :
    Prop :=
  ∃ active, Governs m kind g.id active ∧ g.Shows active

theorem CheckboxGroup.ShowsPassage.governing {g : CheckboxGroup} {kind : DocumentKind}
    (h : g.ShowsPassage kind.passages m) : g.ShowsGoverning m kind := by
  obtain ⟨t, ht, hid, shows⟩ := h
  exact ⟨_, hid ▸ .passage ht, shows⟩

/-- The affidavits of all groups show what governs their boxes if the boxes of each member do,
and the others belong to passages. -/
theorem Deponents.showsGoverning_of_groups {kind : DocumentKind}
    {own : Deponents → Nat → Applicant → CheckboxGroup}
    {shared : Deponents → List CheckboxGroup}
    (members : ∀ d ∈ groups m, ∀ (i : Nat) (a : Applicant), d.membersOrBlank[i]? = some a →
      (own d i a).ShowsGoverning m kind)
    (others : ∀ d, ∀ g ∈ shared d, g.ShowsPassage kind.passages m) :
    ∀ g ∈ (groups m).flatMap fun d => d.membersOrBlank.mapIdx (own d) ++ shared d,
      g.ShowsGoverning m kind := by
  intro g hg
  obtain ⟨d, hd, hg⟩ := List.mem_flatMap.mp hg
  rcases List.mem_append.mp hg with member | other
  · obtain ⟨i, hi, rfl⟩ := List.mem_mapIdx.mp member
    exact members d hd i _ (List.getElem?_eq_getElem hi)
  · exact (others d g other).governing m

theorem ShortAffidavit.showsGoverning_standingGroup {d : Deponents}
    (hd : d ∈ Deponents.groups m) {i : Nat} {a : Applicant} (ha : d.membersOrBlank[i]? = some a) :
    (standingGroup style d i a).ShowsGoverning m .shortAffidavit := by
  obtain ⟨k, hk, hka⟩ := Deponents.member_position hd ha
  refine ⟨_, ?_, Compose.choiceGroup_shows_select style _ a
    ["named_executor", "by_relationship", "unspecified"] rfl (by decide)⟩
  show Governs m .shortAffidavit (Form.numberedId standing.group (d.firstIndex + i)) _
  rw [hk]
  exact .standing rfl hka

theorem ShortAffidavit.showsPassage_willGroups (d : Deponents) :
    ∀ g ∈ willGroups style m d, g.ShowsPassage passages m := by
  simp only [willGroups, List.forall_mem_cons]
  refine ⟨?recital, ?codicils, ?executors, ?condition, ?documents, List.forall_mem_nil _⟩
  case recital =>
    exact Compose.passageGroup_showsPassage style m (by simp [passages])
      ["located", "not_located"] rfl (by decide)
  case codicils =>
    exact Compose.passageGroup_showsPassage style m (by simp [passages]) ["present", "none"]
      rfl (by decide)
  case executors =>
    exact Compose.passageGroup_showsPassage style m (by simp [passages]) ["listed", "none"]
      rfl (by decide)
  case condition =>
    exact Compose.passageGroup_showsPassage style m (by simp [passages])
      ["no_alterations", "alterations", "obliterations"] rfl (by decide)
  case documents =>
    exact Compose.passageGroup_showsPassage style m (by simp [passages]) ["listed", "none"]
      rfl (by decide)

theorem ShortAffidavit.showsGoverning :
    ∀ g ∈ (document style m).checkboxGroups, g.ShowsGoverning m .shortAffidavit := by
  rw [checkboxGroups_document]
  exact Deponents.showsGoverning_of_groups m
    (fun _ hd _ _ ha => showsGoverning_standingGroup style m hd ha)
    (fun d g hg => showsPassage_willGroups style m d g hg)

theorem AdministrationAffidavit.showsGoverning_priorityGroup {d : Deponents}
    (hd : d ∈ Deponents.groups m) {i : Nat} {a : Applicant} (ha : d.membersOrBlank[i]? = some a) :
    (priorityGroup style m d i a).ShowsGoverning m .administrationAffidavit := by
  obtain ⟨k, hk, hka⟩ := Deponents.member_position hd ha
  refine ⟨_, ?_, Compose.choiceGroup_shows_select style _ (PriorityFacts.of m a)
    ["spouse", "child_with_surviving_spouse", "child_without_spouse", "grandchild", "parent",
      "sibling", "other_relationship", "unspecified"] rfl (by decide)⟩
  show Governs m .administrationAffidavit
    (Form.numberedId priority.group (d.firstIndex + i)) _
  rw [hk]
  exact .priority rfl hka

theorem AdministrationAffidavit.showsPassage_familyGroups :
    ∀ g ∈ familyGroups style m, g.ShowsPassage passages m := by
  simp only [familyGroups, List.forall_mem_cons]
  refine ⟨?spouse, ?children, ?successors, List.forall_mem_nil _⟩
  case spouse =>
    exact Compose.passageGroup_showsPassage style m (by simp [passages])
      ["surviving", "deceased", "never_married", "unknown"] rfl (by decide)
  case children =>
    exact Compose.passageGroup_showsPassage style m (by simp [passages]) ["listed", "none"]
      rfl (by decide)
  case successors =>
    exact Compose.passageGroup_showsPassage style m (by simp [passages]) ["listed", "none"]
      rfl (by decide)

theorem AdministrationAffidavit.showsGoverning :
    ∀ g ∈ (document style m).checkboxGroups, g.ShowsGoverning m .administrationAffidavit := by
  rw [checkboxGroups_document]
  exact Deponents.showsGoverning_of_groups m
    (fun _ hd _ _ ha => showsGoverning_priorityGroup style m hd ha)
    (fun _ g hg => showsPassage_familyGroups style m g hg)

/-! ## Every document -/

/-- Every group of boxes shows the clause that governs it, apart from the boxes
that are independent of each other. -/
theorem EstateModel.document_showsGoverning (kind : DocumentKind) {g : CheckboxGroup}
    (hg : g ∈ (m.document style kind).checkboxGroups)
    (hid : g.id ∉ DeliveryAffidavit.independentBoxes) : g.ShowsGoverning m kind := by
  cases kind with
  | notice => exact (Notice.showsPassage style m g hg).governing m
  | submission => exact (Submission.showsPassage style m g hg).governing m
  | shortAffidavit => exact ShortAffidavit.showsGoverning style m g hg
  | administrationAffidavit => exact AdministrationAffidavit.showsGoverning style m g hg
  | deliveryAffidavit => exact (DeliveryAffidavit.showsPassage style m g hg hid).governing m
  | assetsAffidavit => exact (AssetsAffidavit.showsPassage style m g hg).governing m
  | registryCoverLetter =>
      rw [EstateModel.document, CoverLetter.checkboxGroups_document] at hg
      cases hg
  | filingChecklistLetter => exact (ChecklistLetter.showsPassage style m g hg).governing m

/-- A document has a group of boxes with an identifier, and in it a box is checked. -/
def DocumentContent.Checks (d : DocumentContent) (group box : String) : Prop :=
  ∃ g ∈ d.checkboxGroups, g.id = group ∧ g.isChecked box = true

/-- A group that carries the name of a passage shows what its table selects. -/
theorem EstateModel.shows_selected {kind : DocumentKind} {t : ClauseTable EstateModel}
    (ht : t ∈ kind.passages) (hid : t.group ∉ DeliveryAffidavit.independentBoxes)
    {g : CheckboxGroup} (hg : g ∈ (m.document style kind).checkboxGroups)
    (named : g.id = t.group) : g.Shows (t.select m).active := by
  obtain ⟨active, governs, shows⟩ := document_showsGoverning style m kind hg (by rwa [named])
  rw [named] at governs
  rwa [governs.unique (.passage ht)] at shows

/-- The boxes of a passage that a document prints: the selected one is checked. -/
theorem EstateModel.checks_iff {kind : DocumentKind} {t : ClauseTable EstateModel}
    (ht : t ∈ kind.passages) (hid : t.group ∉ DeliveryAffidavit.independentBoxes)
    {g : CheckboxGroup} (hg : g ∈ (m.document style kind).checkboxGroups)
    (printed : g.id = t.group) (box : String) :
    (m.document style kind).Checks t.group box ↔ (t.select m).active = box := by
  constructor
  · rintro ⟨g', hg', named, checked⟩
    exact (((shows_selected style m ht hid hg' named).isChecked_iff box).mp checked).symm
  · intro active
    exact ⟨g, hg, printed,
      ((shows_selected style m ht hid hg printed).isChecked_iff box).mpr active.symm⟩

/-- In every document of every estate, each group of boxes other than the
independent ones has options with distinct identifiers, exactly one of which is
checked, that of the clause which governs the group.  A group is governed by one
clause only, and no table has two clauses that apply to the same facts. -/
theorem EstateModel.document_shows_choice :
    (∀ (m : EstateModel) (style : StyleProfile) (kind : DocumentKind),
      ∀ g ∈ (m.document style kind).checkboxGroups,
        g.id ∉ DeliveryAffidavit.independentBoxes →
          ∃ active, Governs m kind g.id active ∧ (∀ b, Governs m kind g.id b → b = active)
            ∧ (g.options.map CheckboxOption.id).Nodup
            ∧ g.checked.map CheckboxOption.id = [active])
    ∧ (∀ (m : EstateModel) (kind : DocumentKind), ∀ t ∈ kind.passages,
        (t.matching m).length ≤ 1)
    ∧ (∀ a : Applicant, (ShortAffidavit.standing.matching a).length ≤ 1)
    ∧ (∀ f : AdministrationAffidavit.PriorityFacts,
        (AdministrationAffidavit.priority.matching f).length ≤ 1) := by
  refine ⟨?choice, ?estate, ?standing, ?priority⟩
  case choice =>
    intro m style kind g hg hid
    obtain ⟨active, governs, shows⟩ := document_showsGoverning style m kind hg hid
    exact ⟨active, governs, fun b hb => hb.unique governs, shows.distinct, shows.checked⟩
  case estate =>
    intro m kind t ht
    exact (DocumentKind.passages_exclusive kind m t ht).length_matching_le
  case standing =>
    intro a
    exact (ShortAffidavit.standing_exclusive a).length_matching_le
  case priority =>
    intro f
    exact (AdministrationAffidavit.priority_exclusive f).length_matching_le

end EstateFiling
