import EstateFiling.Proofs.Document.Enumerations
import EstateFiling.Proofs.Form.AssetsTables
import EstateFiling.Proofs.Form.Deliveries
import EstateFiling.Proofs.Form.Enclosures
import EstateFiling.Proofs.Form.Executors
import EstateFiling.Proofs.Form.Lookups
import EstateFiling.Proofs.Form.Signatures

/-!
# Enumerations on the forms

`EstateModel.enumerated` says what each form enumerates for an estate.  Read off the page,
the lists of a document are these, each entry with the marker of its position
(`EstateModel.enumerations_document`).  So no two entries of a list have the same marker
(`EstateModel.markers_unique`).
-/

namespace EstateFiling

/-! ## What is enumerated -/

/-- What the notice says of the deceased. -/
def Notice.particulars (m : EstateModel) : List String :=
  ["Full legal name of the deceased: " ++ Form.deceasedName m,
    "Other names by which the deceased was known: "
      ++ (if m.deceased.aliases.isEmpty then Compose.noneText
        else Filler.joinList m.deceased.aliases),
    "Last residential address of the deceased: "
      ++ Filler.addressOrDots m.deceased.lastAddress 40,
    "Date of death: " ++ Filler.dateOrDots m.deceased.dateOfDeath 20]

/-- What the document of a kind enumerates for an estate, list by list. -/
def EstateModel.enumerated (m : EstateModel) : DocumentKind → List (List String)
  | .notice => [Notice.particulars m]
  | .submission =>
      m.deceased.aliases
        :: (if m.grantType.impliesWill then (Submission.scheduleLists m).map Prod.snd else [])
  | .shortAffidavit =>
      (Deponents.groups m).flatMap fun _ =>
        [m.otherExecutors.map ShortAffidavit.otherExecutorEntry, ShortAffidavit.executionRecitals]
  | .administrationAffidavit =>
      (Deponents.groups m).flatMap fun _ =>
        [m.family.children.map AdministrationAffidavit.childEntry,
          m.family.intestateSuccessors.map AdministrationAffidavit.successorEntry]
  | .deliveryAffidavit => [m.deliveries.filterMap DeliveryAffidavit.capacityEntry?]
  | .registryCoverLetter => [CoverLetter.enclosures m]
  | .assetsAffidavit | .filingChecklistLetter => []

section Forms

variable (style : StyleProfile) (m : EstateModel)

/-! ## The notice -/

namespace Notice

/-- The particulars stand between the first caption and the second. -/
theorem read_application :
    (application style m).read =
      ⟨none, "TAKE NOTICE THAT:"⟩
        :: ⟨some "1.", "The applicant(s) named in this notice propose to apply, in the "
          ++ Filler.orDots m.filing.registry 20 ++ " registry of the court, for a "
          ++ m.grantType.label
          ++ " in relation to the estate of the deceased described below:"⟩
        :: (lettered (particulars m)
          ++ [⟨some "2.", "The application is based on the following:"⟩]) := by
  have letters : Filler.letterMarker 0 = "(a)" ∧ Filler.letterMarker 1 = "(b)"
      ∧ Filler.letterMarker 2 = "(c)" ∧ Filler.letterMarker 3 = "(d)" := by decide
  have copy : (if (willBasis.select m).isActive "electronic_will" then
      [Compose.passage style electronicWillCopy m (electronicWillOptions m)]
        else []).filterMap Block.line? = [] := by
    split <;> rfl
  unfold Section.read application
  rw [List.filterMap_append, copy]
  simp [List.filterMap_cons, lettered, particulars, letters]

theorem enumerations_application :
    (application style m).enumerations = marked [particulars m] := by
  unfold Section.enumerations
  rw [read_application, listsOf_unmarked, listsOf_caption (by decide),
    listsOf_lettered (by decide), listsOf_nil, List.append_nil]

theorem enumerations_document :
    (document style m).enumerations = marked (m.enumerated .notice) := by
  have applicants : (applicants style m).enumerations = [] := by
    refine Section.enumerations_eq_nil ?_
    have blank : ((Deponents.together m).membersOrBlank.mapIdx
        (applicantBlocks style)).flatten.filterMap Block.item? = [] :=
      filterMap_flatten_mapIdx_eq_nil (fun _ _ => rfl) _
    unfold Notice.applicants
    rw [List.filterMap_append, blank]
    rfl
  have notices : (notices style m).enumerations = [] := by
    refine Section.enumerations_eq_nil ?_
    unfold Notice.notices
    rw [List.filterMap_append]
    split <;> rfl
  have signatures : (signatures style m).enumerations = [] :=
    Section.enumerations_eq_nil
      (Compose.filterMap_signatures style (fun _ => rfl) m.applicantNames "Signature of applicant")
  rw [DocumentContent.enumerations_of_sections (by simp [tables_document])]
  unfold document
  simp only [List.flatMap_cons, List.flatMap_nil, enumerations_application, applicants, notices,
    signatures, List.append_nil]
  rfl

end Notice

/-! ## The submission -/

namespace Submission

theorem enumerations_deceasedPart :
    (deceasedPart style m).enumerations = marked [m.deceased.aliases] := by
  simp (disch := decide) [Section.enumerations, Section.read, deceasedPart,
    List.filterMap_cons, listsOf_caption, listsOf_listed]

/-- Each list of the schedule stands under its own caption. -/
theorem enumerations_schedulePart :
    (schedulePart style m).enumerations = marked ((scheduleLists m).map Prod.snd) := by
  have entries (number caption : String) (list : List String) (h : isNumber number = true) :
      (point number caption list).filter Line.isEntry = lettered list := by
    unfold point
    rw [List.filter_cons_of_neg (by simp [isEntry_of_isNumber h]), filter_listed]
  show nonempty ((schedulePart style m).points.map _) = _
  rw [points_schedulePart, map_mapIdx, ← nonempty_map_lettered, List.map_map, ← mapIdx_of_item]
  simp only [entries, isNumber_toString_append, Function.comp_apply]

theorem enumerations_document :
    (document style m).enumerations = marked (m.enumerated .submission) := by
  have applicants : (applicantPart style m).enumerations = [] := by
    refine Section.enumerations_eq_nil ?_
    have contacts : ((Deponents.together m).membersOrBlank.mapIdx
        (contactEntry style)).filterMap Block.item? = [] := by
      refine filterMap_mapIdx_eq_nil (fun i a => ?_) _
      unfold Block.item?
      rw [line?_contactEntry, contactLine, Option.filter_some,
        isEntry_of_isNumber (isNumber_toString_append _ _)]
      rfl
    unfold applicantPart
    rw [List.filterMap_append, contacts]
    rfl
  have signatures : (signatures style m).enumerations = [] :=
    Section.enumerations_eq_nil
      (Compose.filterMap_signatures style (fun _ => rfl) m.applicantNames "Signature of applicant")
  have header : (header style m).enumerations = [] := Section.enumerations_eq_nil rfl
  have documents : (documentsPart style m).enumerations = [] := Section.enumerations_eq_nil rfl
  rw [DocumentContent.enumerations_of_sections (by simp [tables_document])]
  show _ = marked ([m.deceased.aliases]
    ++ (if m.grantType.impliesWill then (scheduleLists m).map Prod.snd else []))
  unfold document
  rw [marked_append]
  split <;>
    simp only [List.flatMap_append, List.flatMap_cons, List.flatMap_nil, header,
      enumerations_deceasedPart, applicants, documents, enumerations_schedulePart, signatures,
      List.nil_append, List.append_nil, marked_nil]

end Submission

/-! ## Affidavits -/

namespace ShortAffidavit

theorem enumerations_affidavit (number : Nat) (d : Deponents) :
    (affidavit style m number d).enumerations =
      marked [m.otherExecutors.map otherExecutorEntry, executionRecitals] := by
  simp (disch := decide) [Section.enumerations, Section.read, affidavit, List.filterMap_cons,
    listsOf_caption, listsOf_lettered]
  exact (marked_append [_] [_]).symm

theorem enumerations_document :
    (document style m).enumerations = marked (m.enumerated .shortAffidavit) := by
  have sworn (index : Nat) (d : Deponents) :
      (sworn style m index d).flatMap Section.enumerations =
        marked [m.otherExecutors.map otherExecutorEntry, executionRecitals] := by
    have exhibit : (exhibit style m (index + 1) d).enumerations = [] :=
      Section.enumerations_eq_nil rfl
    simp only [ShortAffidavit.sworn, List.flatMap_cons, List.flatMap_nil, enumerations_affidavit,
      exhibit, List.append_nil]
  rw [DocumentContent.enumerations_of_sections (by simp [tables_document])]
  unfold document EstateModel.enumerated
  rw [marked_flatMap, List.flatten_eq_flatMap, List.flatMap_assoc]
  exact flatMap_mapIdx sworn _

end ShortAffidavit

namespace AdministrationAffidavit

theorem enumerations_affidavit (number : Nat) (d : Deponents) :
    (affidavit style m number d).enumerations =
      marked [m.family.children.map childEntry,
        m.family.intestateSuccessors.map successorEntry] := by
  simp (disch := decide) [Section.enumerations, Section.read, affidavit, List.filterMap_cons,
    listsOf_caption, listsOf_lettered]
  exact (marked_append [_] [_]).symm

theorem enumerations_document :
    (document style m).enumerations = marked (m.enumerated .administrationAffidavit) := by
  rw [DocumentContent.enumerations_of_sections (by simp [tables_document])]
  unfold document EstateModel.enumerated
  rw [marked_flatMap]
  exact flatMap_mapIdx (fun i d => enumerations_affidavit style m (i + 1) d) _

end AdministrationAffidavit

namespace DeliveryAffidavit

theorem enumerations_affidavit :
    (affidavit style m).enumerations = marked [m.deliveries.filterMap capacityEntry?] := by
  simp (disch := decide) [Section.enumerations, Section.read, affidavit, List.filterMap_cons,
    lines_methods, listsOf_caption, listsOf_listed]

theorem enumerations_document :
    (document style m).enumerations = marked (m.enumerated .deliveryAffidavit) := by
  have plain : ∀ t ∈ (document style m).tables, t.entries = [] := by
    intro t ht
    rw [tables_document] at ht
    obtain ⟨method, _, rfl⟩ := List.mem_map.mp ht
    cases method <;> rfl
  rw [DocumentContent.enumerations_of_sections plain]
  unfold document EstateModel.enumerated
  rw [List.flatMap_singleton, enumerations_affidavit]

end DeliveryAffidavit

namespace AssetsAffidavit

/-- The rows of the tables are not marked. -/
theorem entries_eq_nil : ∀ t ∈ (document style m).tables, t.entries = [] := by
  have collection (c : AssetCategory) : (collectionTable style m.assets c).entries = [] := by
    cases c <;> rfl
  have summary : (summaryTable style m.assets).entries = [] := by
    have rows : (summaryRows m.assets).filterMap TableRow.item? = [] := by
      unfold summaryRows
      split <;> rfl
    exact (if_pos rfl).trans rows
  rw [tables_document]
  split <;> simp [collection, summary]

theorem enumerations_document :
    (document style m).enumerations = marked (m.enumerated .assetsAffidavit) := by
  have outside : (exhibitB style m).enumerations = [] := Section.enumerations_eq_nil rfl
  have affidavit : (affidavit style m).enumerations = [] := Section.enumerations_eq_nil rfl
  have inside : (exhibitA style m).enumerations = [] := Section.enumerations_eq_nil rfl
  rw [DocumentContent.enumerations_of_sections (entries_eq_nil style m)]
  unfold document
  split <;>
    simp only [List.flatMap_append, List.flatMap_cons, List.flatMap_nil, affidavit, inside,
      outside, List.append_nil] <;>
    rfl

end AssetsAffidavit

/-! ## Letters -/

namespace Letter

theorem enumerations_closing : (closing style m).enumerations = [] :=
  Section.enumerations_eq_nil
    (Compose.filterMap_signatures style (fun _ => rfl) m.applicantNames "Applicant")

theorem enumerations_head (salutation : String) : (head style m salutation).enumerations = [] :=
  Section.enumerations_eq_nil rfl

end Letter

namespace CoverLetter

/-- Each row of the table is an entry. -/
theorem entries_enclosureTable :
    (enclosureTable style m).entries = lettered (enclosures m) := by
  have row (i : Nat) (enclosure : String) :
      (enclosureRow i enclosure).item? = some ⟨some (Filler.letterMarker i), enclosure⟩ :=
    if_pos (by simp [isLetter, Filler.letterMarker])
  exact (if_pos rfl).trans (filterMap_mapIdx row (enclosures m))

theorem enumerations_document :
    (document style m).enumerations = marked (m.enumerated .registryCoverLetter) := by
  have body : (body style m).enumerations = [] := Section.enumerations_eq_nil rfl
  have sections : (document style m).sections.flatMap Section.enumerations = [] := by
    unfold document
    simp only [List.flatMap_cons, List.flatMap_nil, Letter.enumerations_head, body,
      Letter.enumerations_closing, List.append_nil]
  unfold DocumentContent.enumerations
  rw [sections, tables_document, List.map_singleton, entries_enclosureTable]
  exact nonempty_map_lettered [enclosures m]

end CoverLetter

namespace ChecklistLetter

theorem enumerations_document :
    (document style m).enumerations = marked (m.enumerated .filingChecklistLetter) := by
  have signing : (signing style m).enumerations = [] := by
    refine Section.enumerations_eq_nil ?_
    unfold ChecklistLetter.signing
    split <;> rfl
  have creditors : (creditors style m).enumerations = [] := by
    refine Section.enumerations_eq_nil ?_
    unfold ChecklistLetter.creditors
    split <;> rfl
  have delivery : (delivery style m).enumerations = [] := Section.enumerations_eq_nil rfl
  have copies : (copies style m).enumerations = [] := Section.enumerations_eq_nil rfl
  have plain : ∀ t ∈ (document style m).tables, t.entries = [] := by
    intro t ht
    rw [tables_document, Section.tables, ChecklistLetter.creditors] at ht
    split at ht
    · cases ht
    · obtain rfl := List.mem_singleton.mp ht
      rfl
  rw [DocumentContent.enumerations_of_sections plain]
  unfold document
  simp only [List.flatMap_cons, List.flatMap_nil, Letter.enumerations_head, signing, delivery,
    creditors, copies, Letter.enumerations_closing, List.append_nil]
  rfl

end ChecklistLetter

end Forms

/-! ## All documents -/

/-- Read off the page, the lists of a document are those of the estate, marked. -/
theorem EstateModel.enumerations_document (m : EstateModel) (style : StyleProfile)
    (kind : DocumentKind) :
    (m.document style kind).enumerations = marked (m.enumerated kind) := by
  cases kind with
  | notice => exact Notice.enumerations_document style m
  | submission => exact Submission.enumerations_document style m
  | shortAffidavit => exact ShortAffidavit.enumerations_document style m
  | administrationAffidavit => exact AdministrationAffidavit.enumerations_document style m
  | deliveryAffidavit => exact DeliveryAffidavit.enumerations_document style m
  | assetsAffidavit => exact AssetsAffidavit.enumerations_document style m
  | registryCoverLetter => exact CoverLetter.enumerations_document style m
  | filingChecklistLetter => exact ChecklistLetter.enumerations_document style m

/-- Different positions have different markers.  The entries of a document are marked by their
positions in their lists, and every paragraph with a letter is one of them; so within a list
no marker stands twice. -/
theorem EstateModel.markers_unique (m : EstateModel) (style : StyleProfile)
    (kind : DocumentKind) :
    (∀ i j, i ≠ j → Filler.letterMarker i ≠ Filler.letterMarker j)
    ∧ (m.document style kind).enumerations = marked (m.enumerated kind)
    ∧ (∀ s ∈ (m.document style kind).sections, ∀ l ∈ s.read, l.isEntry = true →
        ∃ list ∈ (m.document style kind).enumerations, l ∈ list)
    ∧ ∀ list ∈ (m.document style kind).enumerations, (list.map Line.mark).Nodup := by
  refine ⟨fun _ _ => Filler.letterMarker_injective.ne, m.enumerations_document style kind,
    fun _ hs _ hl => DocumentContent.exists_mem_enumerations hs hl, ?_⟩
  rw [m.enumerations_document style kind]
  exact nodup_marks_of_mem_marked

end EstateFiling
