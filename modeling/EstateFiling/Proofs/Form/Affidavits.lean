import EstateFiling.Proofs.Document.Wording
import EstateFiling.Proofs.Form.CheckedBoxes
import EstateFiling.Proofs.Form.Enclosures

/-!
# The affidavits of the applicants

Every applicant swears exactly once (`EstateModel.SwornOnce`).  An affidavit prints boxes
for each of its deponents and a place to sign in its jurat; since the groups of deponents
part the applicants, each applicant has both once, whether they swear together or each
alone.

The other documents count the affidavits without looking at them, and they count alike
(`EstateModel.CountsAffidavits`): the cover letter lists as many as there are, and the
submission speaks of separate affidavits where there are several.
-/

namespace EstateFiling

/-! ## Jurats -/

/-- The jurat that a block is. -/
def Block.jurat? : Block → Option Jurat
  | .jurat j => some j
  | _ => none

/-- The jurats among blocks. -/
def juratsOf (bs : List Block) : List Jurat := bs.filterMap Block.jurat?

@[simp] theorem juratsOf_nil : juratsOf [] = [] := rfl

@[simp] theorem juratsOf_cons (b : Block) (bs : List Block) :
    juratsOf (b :: bs) = b.jurat?.toList ++ juratsOf bs := by
  cases h : b.jurat? with
  | none => simp [juratsOf, h]
  | some j => simp [juratsOf, h]

@[simp] theorem juratsOf_append (bs cs : List Block) :
    juratsOf (bs ++ cs) = juratsOf bs ++ juratsOf cs :=
  List.filterMap_append

@[simp] theorem juratsOf_enumeration (style : StyleProfile) (entries : List String)
    (indent : UInt16) : juratsOf (Compose.enumeration style entries indent) = [] :=
  Compose.filterMap_enumeration style (fun _ => rfl) entries indent

@[simp] theorem juratsOf_breakBefore (number : Nat) :
    juratsOf (if 1 < number then [Block.pageBreak] else []) = [] := by
  split <;> rfl

@[simp] theorem Compose.jurat?_numbered (style : StyleProfile) (number s : String) :
    (numbered style number s).jurat? = none := rfl

@[simp] theorem Compose.jurat?_passage {Facts : Type} (style : StyleProfile)
    (t : ClauseTable Facts) (facts : Facts) (options : List (String × String))
    (caption : Option String) : (passage style t facts options caption).jurat? = none := rfl

@[simp] theorem Form.juratsOf_affidavitOpening (style : StyleProfile) (m : EstateModel)
    (form title : String) (d : Deponents) :
    juratsOf (affidavitOpening style m form title d) = [] := rfl

/-- The jurats of a section. -/
def Section.jurats (s : Section) : List Jurat := juratsOf s.blocks

/-- The places to sign in the jurats of a document. -/
def DocumentContent.deponents (d : DocumentContent) : List String :=
  (d.sections.flatMap Section.jurats).flatMap Jurat.deponents

namespace Deponents

/-- The jurat that the members of a group sign. -/
def jurat (style : StyleProfile) (d : Deponents) : Jurat where
  swornLine := "SWORN (OR AFFIRMED) BEFORE ME at " ++ Filler.orDots d.place 24
    ++ ", British Columbia, on " ++ Filler.dots 24 ++ "."
  commissionerLines :=
    [Filler.underline 40, "A commissioner for taking affidavits for British Columbia",
      "[print name or affix stamp of commissioner] " ++ Filler.dots 20]
  deponents := (d.membersOrBlank.map Applicant.displayName).map Compose.deponentLine
  size := style.bodySize

theorem deponents_jurat (style : StyleProfile) (d : Deponents) :
    (d.jurat style).deponents =
      (d.membersOrBlank.map Applicant.displayName).map Compose.deponentLine := rfl

/-- The members of a group sign the jurat that closes their affidavit. -/
@[simp] theorem jurat?_affidavitClose (style : StyleProfile) (d : Deponents) :
    (Form.affidavitClose style d).jurat? = some (d.jurat style) := by
  have signed : d.membersOrBlank.map Applicant.displayName =
      if d.names.isEmpty then [""] else d.names := by
    unfold names membersOrBlank
    cases d.members <;> rfl
  unfold jurat
  rw [signed]
  rfl

/-- The passages about the members of a group have no jurat, whatever they are about. -/
theorem juratsOf_passages (d : Deponents) (passage : Nat → Applicant → Block)
    (boxes : ∀ i a, (passage i a).jurat? = none) :
    juratsOf (d.membersOrBlank.mapIdx passage) = [] :=
  filterMap_mapIdx_eq_nil boxes _

end Deponents

section Sworn

variable (style : StyleProfile) (m : EstateModel)

theorem ShortAffidavit.jurats_affidavit (number : Nat) (d : Deponents) :
    (affidavit style m number d).jurats = [d.jurat style] := by
  simp [Section.jurats, affidavit, d.juratsOf_passages (standingPassage style d) fun _ _ => rfl]

theorem AdministrationAffidavit.jurats_affidavit (number : Nat) (d : Deponents) :
    (affidavit style m number d).jurats = [d.jurat style] := by
  simp [Section.jurats, affidavit, d.juratsOf_passages (priorityPassage style m d) fun _ _ => rfl]

theorem ShortAffidavit.jurats_exhibit (number : Nat) (d : Deponents) :
    (exhibit style m number d).jurats = [] := rfl

/-! ## Sections -/

theorem ShortAffidavit.map_sections :
    (document style m).sections.map (fun s => (s.id, s.jurats.length)) =
      (List.range m.affidavitCount).flatMap fun i =>
        [(Form.numberedId "affidavit" (i + 1), 1), (Form.numberedId "exhibit_a" (i + 1), 0)] := by
  have each : ∀ i d, (sworn style m i d).map (fun s => (s.id, s.jurats.length)) =
      [(Form.numberedId "affidavit" (i + 1), 1), (Form.numberedId "exhibit_a" (i + 1), 0)] := by
    intro i d
    simp only [sworn, List.map_cons, List.map_nil, jurats_affidavit, jurats_exhibit]
    rfl
  show ((Deponents.groups m).mapIdx (sworn style m)).flatten.map _ = _
  rw [List.map_flatten, map_mapIdx]
  simp only [each]
  rw [mapIdx_of_position, Deponents.length_groups, List.flatMap_def]

theorem AdministrationAffidavit.map_sections :
    (document style m).sections.map (fun s => (s.id, s.jurats.length)) =
      (List.range m.affidavitCount).map fun i => (Form.numberedId "affidavit" (i + 1), 1) := by
  have each : ∀ i d, ((affidavit style m (i + 1) d).id,
      (affidavit style m (i + 1) d).jurats.length) = (Form.numberedId "affidavit" (i + 1), 1) := by
    intro i d
    rw [jurats_affidavit]
    rfl
  unfold document
  rw [map_mapIdx]
  simp only [each]
  rw [mapIdx_of_position, Deponents.length_groups]

/-- Where each group signs one jurat, each applicant signs in one place. -/
theorem Deponents.deponents_of_jurats {d : DocumentContent}
    (h : d.sections.flatMap Section.jurats = (groups m).map (Deponents.jurat style)) :
    d.deponents =
      (if m.applicants = [] then [""] else m.applicants.map Applicant.displayName).map
        Compose.deponentLine := by
  have names : (together m).membersOrBlank.map Applicant.displayName =
      if m.applicants = [] then [""] else m.applicants.map Applicant.displayName := by
    unfold membersOrBlank together
    cases m.applicants <;> rfl
  unfold DocumentContent.deponents
  rw [h, List.flatMap_map, ← names, List.map_map, ← flatMap_members]
  simp only [deponents_jurat, List.map_map]

theorem ShortAffidavit.deponents_document :
    (document style m).deponents =
      (if m.applicants = [] then [""] else m.applicants.map Applicant.displayName).map
        Compose.deponentLine := by
  refine Deponents.deponents_of_jurats style m ?_
  have each : ∀ i d, (sworn style m i d).flatMap Section.jurats = [d.jurat style] := by
    intro i d
    simp only [sworn, List.flatMap_cons, List.flatMap_nil, jurats_affidavit, jurats_exhibit]
    rfl
  unfold document
  rw [List.flatten_eq_flatMap, List.flatMap_assoc, List.map_eq_flatMap]
  exact flatMap_mapIdx each _

theorem AdministrationAffidavit.deponents_document :
    (document style m).deponents =
      (if m.applicants = [] then [""] else m.applicants.map Applicant.displayName).map
        Compose.deponentLine := by
  refine Deponents.deponents_of_jurats style m ?_
  rw [List.map_eq_flatMap]
  exact flatMap_mapIdx (fun i d => jurats_affidavit style m (i + 1) d) _

/-! ## Boxes about an applicant -/

/-- The groups of boxes that are numbered under a name. -/
def DocumentContent.numbered (d : DocumentContent) (name : String) : List CheckboxGroup :=
  d.checkboxGroups.filter fun g => Text.startsWith g.id (name ++ ".")

/-- A group of boxes is about an applicant: its caption, if any, is the applicant's name, its
boxes are worded for the applicant, and the one that a table selects is checked. -/
structure CheckboxGroup.IsAbout {Facts : Type} (g : CheckboxGroup) (a : Applicant)
    (t : ClauseTable Facts) (facts : Facts) (wording : List (String × String)) : Prop where
  /-- The caption names the applicant. -/
  caption : ∀ c ∈ g.caption, c = Filler.orDots a.displayName 30 ++ ":"
  /-- The boxes have the applicant's wording. -/
  worded : g.options.map (fun o => (o.id, o.label)) = wording
  /-- The box that applies is checked, and no other. -/
  shows : g.Shows (t.select facts).active

theorem Compose.choiceGroup_isAbout {Facts : Type} (id : String) {caption : Option String}
    (a : Applicant) {t : ClauseTable Facts} {facts : Facts} {wording : List (String × String)}
    (names : List String) (named : wording.map Prod.fst = names) (served : t.ServedBy names)
    (captioned : ∀ c ∈ caption, c = Filler.orDots a.displayName 30 ++ ":") :
    (choiceGroup style id caption (t.select facts) wording).IsAbout a t facts wording where
  caption := captioned
  worded := by
    unfold choiceGroup
    rw [List.map_map]
    exact List.map_id _
  shows := choiceGroup_shows_select style id facts names named served

/-- Where each group of deponents prints boxes of its members and some of its own, the
former are printed once for each applicant, in order. -/
theorem Deponents.numbered_of_groups {d : DocumentContent} {name : String}
    (member : Nat → Applicant → CheckboxGroup) (shared : Deponents → List CheckboxGroup)
    (ids : List String) (printed : d.checkboxGroups = (groups m).flatMap fun e =>
      e.membersOrBlank.mapIdx (fun i a => member (e.firstIndex + i) a) ++ shared e)
    (named : ∀ k a, (member k a).id = Form.numberedId name k)
    (others : ∀ e, (shared e).map CheckboxGroup.id = ids)
    (apart : ∀ id ∈ ids, Text.startsWith id (name ++ ".") = false) :
    d.numbered name = (together m).membersOrBlank.mapIdx fun i a => member (i + 1) a := by
  unfold DocumentContent.numbered
  rw [printed, List.filter_flatMap, ← flatMap_numbered m member]
  refine List.flatMap_congr fun e _ => ?_
  have dropped : (shared e).filter (fun g => Text.startsWith g.id (name ++ ".")) = [] := by
    refine List.filter_eq_nil_iff.mpr fun g hg => ?_
    rw [apart g.id (others e ▸ List.mem_map_of_mem hg)]
    exact Bool.false_ne_true
  rw [List.filter_append, dropped, List.append_nil, List.filter_eq_self]
  intro g hg
  obtain ⟨i, _, rfl⟩ := List.mem_mapIdx.mp hg
  rw [named]
  exact Text.startsWith_append _ _

theorem ids_of_numbered {gs : List CheckboxGroup} {name : String}
    {member : Nat → Applicant → CheckboxGroup}
    (printed : gs = (Deponents.together m).membersOrBlank.mapIdx fun i a => member (i + 1) a)
    (named : ∀ k a, (member k a).id = Form.numberedId name k) :
    gs.map CheckboxGroup.id =
      (List.range (max 1 m.applicants.length)).map fun j => Form.numberedId name (j + 1) := by
  rw [printed, map_mapIdx]
  simp only [named]
  rw [mapIdx_of_position, Deponents.length_membersOrBlank]
  rfl

namespace ShortAffidavit

/-- The boxes about an applicant's standing, by position among all applicants. -/
def numberedStanding (k : Nat) (a : Applicant) : CheckboxGroup :=
  Compose.choiceGroup style (Form.numberedId standing.group k)
    (if m.filing.jointAffidavit && (Deponents.together m).isJoint then
      some (Filler.orDots a.displayName 30 ++ ":")
    else none)
    (standing.select a) (standingOptions a)

/-- The boxes of the short affidavits, with the members counted among all applicants. -/
theorem checkboxGroups_numbered :
    (document style m).checkboxGroups = (Deponents.groups m).flatMap fun d =>
      d.membersOrBlank.mapIdx (fun i a => numberedStanding style m (d.firstIndex + i) a)
        ++ willGroups style m d := by
  rw [checkboxGroups_document]
  refine List.flatMap_congr fun d hd => ?_
  unfold affidavitGroups standingGroup numberedStanding
  rw [Deponents.isJoint_of_mem hd]

theorem numbered_document :
    (document style m).numbered "applicant_standing" =
      (Deponents.together m).membersOrBlank.mapIdx fun i a =>
        numberedStanding style m (i + 1) a :=
  Deponents.numbered_of_groups m (numberedStanding style m) (willGroups style m)
    (passages.map ClauseTable.group) (checkboxGroups_numbered style m) (fun _ _ => rfl)
    (fun _ => rfl) (by decide)

theorem numberedStanding_isAbout (k : Nat) (a : Applicant) :
    (numberedStanding style m k a).IsAbout a standing a (standingOptions a) := by
  refine Compose.choiceGroup_isAbout style _ a
    ["named_executor", "by_relationship", "unspecified"] rfl (by decide) fun c hc => ?_
  split at hc
  · exact (Option.some.inj hc).symm
  · cases hc

end ShortAffidavit

namespace AdministrationAffidavit

/-- The boxes about an applicant's priority, by position among all applicants. -/
def numberedPriority (k : Nat) (a : Applicant) : CheckboxGroup :=
  Compose.choiceGroup style (Form.numberedId priority.group k)
    (some (Filler.orDots a.displayName 30 ++ ":"))
    (priority.select (PriorityFacts.of m a)) (priorityOptions m a)

theorem numbered_document :
    (document style m).numbered "priority" =
      (Deponents.together m).membersOrBlank.mapIdx fun i a => numberedPriority style m (i + 1) a :=
  Deponents.numbered_of_groups m (numberedPriority style m) (fun _ => familyGroups style m)
    (passages.map ClauseTable.group) (checkboxGroups_document style m) (fun _ _ => rfl)
    (fun _ => rfl) (by decide)

theorem numberedPriority_isAbout (k : Nat) (a : Applicant) :
    (numberedPriority style m k a).IsAbout a priority (PriorityFacts.of m a)
      (priorityOptions m a) := by
  refine Compose.choiceGroup_isAbout style _ a
    ["spouse", "child_with_surviving_spouse", "child_without_spouse", "grandchild", "parent",
      "sibling", "other_relationship", "unspecified"] rfl (by decide) fun c hc => ?_
  exact (Option.some.inj hc).symm

end AdministrationAffidavit

/-! ## Every applicant swears once -/

/-- In a document every applicant swears once: its sections, with the number of jurats in
each, are those of as many affidavits as there are; the jurats have a place to sign for each
applicant in order; and the boxes that are numbered under a name are those about the
applicants, in order. -/
structure EstateModel.SwornOnce (m : EstateModel) (d : DocumentContent)
    (affidavit : Nat → List (String × Nat)) (name : String)
    (about : Applicant → CheckboxGroup → Prop) : Prop where
  /-- The affidavits are numbered from one. -/
  sections : d.sections.map (fun s => (s.id, s.jurats.length)) =
    (List.range m.affidavitCount).flatMap fun i => affidavit (i + 1)
  /-- Each applicant signs in one place. -/
  deponents : d.deponents =
    (if m.applicants = [] then [""] else m.applicants.map Applicant.displayName).map
      Compose.deponentLine
  /-- Each number stands once, and they are in order. -/
  numbered : (d.numbered name).map CheckboxGroup.id =
    (List.range (max 1 m.applicants.length)).map fun j => Form.numberedId name (j + 1)
  /-- The boxes with a number are about the applicant in this position. -/
  about : List.Forall₂ about (Deponents.together m).membersOrBlank (d.numbered name)

theorem ShortAffidavit.swornOnce :
    m.SwornOnce (document style m)
      (fun i => [(Form.numberedId "affidavit" i, 1), (Form.numberedId "exhibit_a" i, 0)])
      "applicant_standing" (fun a g => g.IsAbout a standing a (standingOptions a)) where
  sections := map_sections style m
  deponents := deponents_document style m
  numbered := ids_of_numbered m (numbered_document style m) fun _ _ => rfl
  about := by
    rw [numbered_document]
    exact forall₂_mapIdx fun i a => numberedStanding_isAbout style m (i + 1) a

theorem AdministrationAffidavit.swornOnce :
    m.SwornOnce (document style m) (fun i => [(Form.numberedId "affidavit" i, 1)]) "priority"
      (fun a g => g.IsAbout a priority (PriorityFacts.of m a) (priorityOptions m a)) where
  sections := (map_sections style m).trans List.map_eq_flatMap
  deponents := deponents_document style m
  numbered := ids_of_numbered m (numbered_document style m) fun _ _ => rfl
  about := by
    rw [numbered_document]
    exact forall₂_mapIdx fun i a => numberedPriority_isAbout style m (i + 1) a

/-! ## Documents that count the affidavits -/

theorem EstateModel.affidavitCount_pos : 0 < m.affidavitCount := by
  rw [← Deponents.length_groups]
  exact List.length_pos_of_ne_nil (Deponents.groups_ne_nil m)

/-- There are several affidavits if there are several applicants, each swearing alone. -/
theorem EstateModel.one_lt_affidavitCount_iff :
    1 < m.affidavitCount ↔ m.isSoleApplicant = false ∧ m.filing.jointAffidavit = false := by
  unfold affidavitCount isSoleApplicant
  cases m.filing.jointAffidavit with
  | true => simp
  | false => cases m.applicants <;> simp [List.length_pos_iff]

namespace Submission

theorem checks_separate_iff :
    (m.document style .submission).Checks "affidavit_mode" "separate_affidavits" ↔
      1 < m.affidavitCount ∧ m.filing.supplementalAffidavit = false := by
  refine (m.checks_clause_iff style (t := affidavitMode)
    (by simp [DocumentKind.passages, passages]) (by decide) _).trans ?_
  rw [m.one_lt_affidavitCount_iff]
  simp [ClauseTable.Settles, affidavitMode]

/-- How the submission words the affidavits of the applicants. -/
theorem labels_affidavitMode (box : String) :
    (document style m).labels "affidavit_mode" box =
      ((modeOptions m).filter fun o => o.1 == box).map Prod.snd := by
  have printed : (document style m).checkboxGroups =
      ((deceasedPart style m).checkboxGroups ++ (applicantPart style m).checkboxGroups)
        ++ Compose.passageGroup style affidavitMode m (modeOptions m)
        :: (documentsPart style m).checkboxGroups.tail := by
    rw [checkboxGroups_document, checkboxGroups_documentsPart]
    rfl
  have once : "affidavit_mode" ∉
      (((deceasedPart style m).checkboxGroups ++ (applicantPart style m).checkboxGroups)
        ++ (documentsPart style m).checkboxGroups.tail).map CheckboxGroup.id := by
    rw [checkboxGroups_deceasedPart, checkboxGroups_applicantPart, checkboxGroups_documentsPart]
    exact (by decide : "affidavit_mode" ∉
      ["grant_type", "nisgaa", "treaty_first_nation", "domicile", "certified_copies",
        "delivery_affidavit", "wills_search", "will_documents", "assets_affidavit", "translation",
        "renunciations", "foreign_grant"])
  exact DocumentContent.labels_passage (t := affidavitMode) printed once box

end Submission

namespace ChecklistLetter

/-- How the checklist begins to tell the applicants what to sign. -/
def signingWords : String :=
  "Sign the submission for estate grant (Form P2). Swear or affirm the affidavit of "

theorem after?_copiesText (count : UInt32) :
    Text.after? signingWords (copiesText count) = none := by
  unfold copiesText
  split
  · simp only [String.append_assoc]
    exact Text.after?_append_of_apart (by decide) _
  · exact Text.after?_append_of_apart (by decide) _

theorem saidAfter_signing :
    saidAfter signingWords (signing style m).blocks =
      ["applicant (Form " ++ (Form.applicantAffidavit m.grantType
        ++ (") before a lawyer, notary public or commissioner for taking affidavits. Do not "
        ++ "sign the affidavit until you are in front of that person."))] := by
  unfold signing signingWords
  simp (disch := decide) only [saidAfter_cons, saidAfter_ite, saidAfter_nil, Compose.after?_text,
    String.append_assoc, Text.after?_append, Text.after?_append_of_apart, Option.toList_none,
    Option.toList_some, List.append_nil, ite_self]

theorem after_signingWords :
    (document style m).after signingWords =
      ["applicant (Form " ++ (Form.applicantAffidavit m.grantType
        ++ (") before a lawyer, notary public or commissioner for taking affidavits. Do not "
        ++ "sign the affidavit until you are in front of that person."))] := by
  simp (disch := decide) [DocumentContent.after_eq, document, Letter.head, Letter.closing,
    delivery, creditors, copies, saidAfter_signing, after?_copiesText, String.append_assoc,
    -String.reduceAppend]

end ChecklistLetter

end Sworn

/-- The other documents count the affidavits of the applicants as they are, and name the
form of the applicant's affidavit. -/
structure EstateModel.CountsAffidavits (m : EstateModel) (style : StyleProfile) : Prop where
  /-- The cover letter encloses one affidavit if there is one. -/
  one : ∀ form, m.Encloses style ("Affidavit of applicant (Form " ++ form ++ ")") ↔
    m.affidavitCount = 1 ∧ form = Form.applicantAffidavit m.grantType
  /-- It encloses several, as many as there are, if there are several. -/
  several : ∀ count form,
    m.Encloses style (toString count ++ " affidavits of applicant (Form " ++ form ++ ")") ↔
      1 < m.affidavitCount ∧ count = m.affidavitCount
        ∧ form = Form.applicantAffidavit m.grantType
  /-- The submission speaks of separate affidavits if there are several, unless they are
  supplemental. -/
  separate : (m.document style .submission).Checks "affidavit_mode" "separate_affidavits" ↔
    1 < m.affidavitCount ∧ m.filing.supplementalAffidavit = false
  /-- Its boxes name the form. -/
  worded : (m.document style .submission).labels "affidavit_mode" "single_applicant" =
      ["an affidavit of the applicant in Form " ++ Form.applicantAffidavit m.grantType]
    ∧ (m.document style .submission).labels "affidavit_mode" "separate_affidavits" =
      ["an affidavit in Form " ++ Form.applicantAffidavit m.grantType
        ++ " of each of the applicants"]
    ∧ (m.document style .submission).labels "affidavit_mode" "joint_affidavit" =
      ["a joint affidavit of the applicants in Form " ++ Form.applicantAffidavit m.grantType]
  /-- The checklist names it. -/
  signing : (m.document style .filingChecklistLetter).after ChecklistLetter.signingWords =
    ["applicant (Form " ++ (Form.applicantAffidavit m.grantType
      ++ (") before a lawyer, notary public or commissioner for taking affidavits. Do not "
      ++ "sign the affidavit until you are in front of that person."))]

theorem EstateModel.countsAffidavits (m : EstateModel) (style : StyleProfile) :
    m.CountsAffidavits style where
  one form := by
    refine (m.encloses_iff style (.affidavit form)).trans ?_
    have positive := m.affidavitCount_pos
    rw [CallsFor, Deponents.length_groups]
    exact and_congr_left' (by omega)
  several count form := by
    refine (m.encloses_iff style (.affidavits count form)).trans ?_
    rw [CallsFor, Deponents.length_groups]
  separate := Submission.checks_separate_iff style m
  worded := ⟨Submission.labels_affidavitMode style m _, Submission.labels_affidavitMode style m _,
    Submission.labels_affidavitMode style m _⟩
  signing := ChecklistLetter.after_signingWords style m

/-- Every applicant swears exactly once, in the affidavits under a will and in those without
one, and the documents count the affidavits alike. -/
theorem EstateModel.affidavits_sworn_and_counted (m : EstateModel) (style : StyleProfile) :
    m.SwornOnce (m.document style .shortAffidavit)
      (fun i => [(Form.numberedId "affidavit" i, 1), (Form.numberedId "exhibit_a" i, 0)])
      "applicant_standing"
      (fun a g => g.IsAbout a ShortAffidavit.standing a (ShortAffidavit.standingOptions a))
    ∧ m.SwornOnce (m.document style .administrationAffidavit)
      (fun i => [(Form.numberedId "affidavit" i, 1)]) "priority"
      (fun a g => g.IsAbout a AdministrationAffidavit.priority
        (AdministrationAffidavit.PriorityFacts.of m a)
        (AdministrationAffidavit.priorityOptions m a))
    ∧ m.CountsAffidavits style :=
  ⟨ShortAffidavit.swornOnce style m, AdministrationAffidavit.swornOnce style m,
    m.countsAffidavits style⟩

end EstateFiling
