import EstateFiling.Form.Document
import EstateFiling.Proofs.Document.Formed
import EstateFiling.Proofs.Form.Deponents

/-!
# Well-formed forms

The blocks of every form are well formed, whatever the estate.  The texts of its paragraphs
begin with words of the form or with a filler, so that they are filled; only the submission
prints some texts of the estate as they are (`Submission.verbatim`).  Both are told by one walk
over the forms (`EstateModel.allFormed_document_iff`): under a condition that every filled text
meets, the texts that are printed as they are decide.
-/

namespace EstateFiling

variable {accept : String → Prop} (style : StyleProfile) (m : EstateModel)

/-! ## Texts that begin with a filler -/

theorem Deponents.filled_pronoun (d : Deponents) : Text.Filled d.pronoun := by
  unfold pronoun
  split <;> exact Text.filled_of_head rfl

namespace Submission

theorem filled_memberEntry (member : FamilyMember) : Text.Filled (memberEntry member) :=
  (Filler.filled_orDots member.name (by decide)).append _

theorem filled_spouseEntries (s : Spouse) : ∀ entry ∈ spouseEntries s, Text.Filled entry := by
  have name : Text.Filled (Filler.orDots s.name 30) := Filler.filled_orDots s.name (by decide)
  unfold spouseEntries
  cases s.status <;> simp [name, name.append]

/-- The entries of the schedule that are printed as they are. -/
def verbatimEntries (m : EstateModel) : List String :=
  (m.otherExecutors.filter (fun e => e.disposition = .powerReserved)).map OtherExecutor.name
    ++ m.family.intestateSuccessors.map successorEntry ++ m.citors

/-- The texts of an estate that the submission prints as they are. -/
def verbatim (m : EstateModel) : List String :=
  m.deceased.aliases ++ (if m.grantType.impliesWill then verbatimEntries m else [])

end Submission

theorem ShortAffidavit.filled_otherExecutorEntry (e : OtherExecutor) :
    Text.Filled (otherExecutorEntry e) := by
  rw [otherExecutorEntry, String.append_assoc, String.append_assoc]
  exact (Filler.filled_orDots e.name (by decide)).append _

namespace AdministrationAffidavit

theorem filled_childEntry (c : FamilyMember) : Text.Filled (childEntry c) :=
  (Filler.filled_orDots c.name (by decide)).append _

theorem filled_successorEntry (s : IntestateSuccessor) : Text.Filled (successorEntry s) :=
  (Filler.filled_orDots s.name (by decide)).append _

end AdministrationAffidavit

theorem DeliveryAffidavit.filled_of_mem_capacityEntries {ds : List Delivery} {entry : String}
    (hentry : entry ∈ ds.filterMap capacityEntry?) : Text.Filled entry := by
  obtain ⟨d, _, said⟩ := List.mem_filterMap.mp hentry
  obtain ⟨capacity, _, rfl⟩ := Option.map_eq_some_iff.mp said
  simp only [String.append_assoc]
  exact (Filler.filled_orDots capacity.person (by decide)).append _

/-! ## What the forms share -/

section Walk

variable (h : AcceptsFilled accept)

include h

namespace Form

theorem formed_reference (form rule : String) : (reference style form rule).Formed accept := by
  simp (disch := exact Text.filled_of_head rfl) [reference, h.append, String.append_assoc]

theorem allFormed_courtCaption : AllFormed accept (courtCaption style m) := by
  simp (disch := exact Text.filled_of_head rfl)
    [courtCaption, h.text, h.append, String.append_assoc]

theorem allFormed_affidavitOpening (form : String) {title : String} (filled : Text.Filled title)
    (d : Deponents) : AllFormed accept (affidavitOpening style m form title d) := by
  simp [affidavitOpening, formed_reference style h, allFormed_courtCaption style m h,
    h.text filled, Deponents.introduction, h.append d.filled_pronoun, String.append_assoc]

theorem allFormed_exhibitCertificate (letter deponents : String) :
    AllFormed accept (exhibitCertificate style letter deponents) := by
  simp (disch := exact Text.filled_of_head rfl)
    [exhibitCertificate, h.append, String.append_assoc]

end Form

namespace Letter

theorem allFormed_head {salutation : String} (filled : Text.Filled salutation) :
    AllFormed accept (head style m salutation).blocks := by
  simp (disch := exact Text.filled_of_head rfl)
    [head, h.append, h.text filled, String.append_assoc]

theorem allFormed_closing : AllFormed accept (closing style m).blocks := by
  simp (disch := exact Text.filled_of_head rfl) [closing, h.text]

end Letter

/-! ## Notice -/

namespace Notice

theorem allFormed_header : AllFormed accept (header style m).blocks := by
  simp (disch := exact Text.filled_of_head rfl)
    [header, title, Form.formed_reference style h, Form.allFormed_courtCaption style m h, h.text]

theorem allFormed_application : AllFormed accept (application style m).blocks := by
  simp (disch := exact Text.filled_of_head rfl)
    [application, basisOptions, electronicWillOptions, h.text, h.append, String.append_assoc,
      -String.reduceAppend]

theorem allFormed_applicantBlocks (index : Nat) (a : Applicant) :
    AllFormed accept (applicantBlocks style index a) := by
  simp (disch := exact Text.filled_of_head rfl) [applicantBlocks, h.append]

theorem allFormed_applicants : AllFormed accept (applicants style m).blocks := by
  have entries := allFormed_flatten_mapIdx (allFormed_applicantBlocks style h)
    (Deponents.together m).membersOrBlank
  simp (disch := exact Text.filled_of_head rfl) [applicants, entries, serviceOptions, h.append]

theorem allFormed_notices : AllFormed accept (notices style m).blocks := by
  simp (disch := exact Text.filled_of_head rfl)
    [notices, indigenousOptions, h.append, String.append_assoc, -String.reduceAppend]

theorem allFormed_signatures : AllFormed accept (signatures style m).blocks := by
  simp (disch := exact Text.filled_of_head rfl) [signatures, h.append]

theorem allFormed_document : AllFormed accept (document style m).blocks := by
  rw [DocumentContent.allFormed_blocks]
  simp [document, allFormed_header style m h, allFormed_application style m h,
    allFormed_applicants style m h, allFormed_notices style m h, allFormed_signatures style m h]

end Notice

/-! ## Submission -/

namespace Submission

theorem allFormed_header : AllFormed accept (header style m).blocks := by
  simp (disch := exact Text.filled_of_head rfl)
    [header, title, Form.formed_reference style h, Form.allFormed_courtCaption style m h, h.text,
      h.append, String.append_assoc, -String.reduceAppend]

theorem allFormed_deceasedPart_iff :
    AllFormed accept (deceasedPart style m).blocks ↔ ∀ s ∈ m.deceased.aliases, accept s := by
  simp (disch := exact Text.filled_of_head rfl)
    [deceasedPart, Compose.allFormed_enumerationOrNone style h, grantOptions, GrantType.all,
      nisgaaOptions, treatyOptions, domicileOptions, h.text, h.append, -String.reduceAppend]

theorem formed_contactEntry (index : Nat) (a : Applicant) :
    (contactEntry style index a).Formed accept := by
  simp (disch := exact Text.filled_of_head rfl) [contactEntry, h.append, String.append_assoc]

theorem allFormed_applicantPart : AllFormed accept (applicantPart style m).blocks := by
  have entries := allFormed_mapIdx (formed_contactEntry style h)
    (Deponents.together m).membersOrBlank
  simp (disch := exact Text.filled_of_head rfl)
    [applicantPart, entries, copiesOptions, h.append, String.append_assoc]

theorem allFormed_documentsPart : AllFormed accept (documentsPart style m).blocks := by
  simp (disch := exact Text.filled_of_head rfl)
    [documentsPart, modeOptions, deliveryOptions, willsSearchOptions, willOptions, assetsOptions,
      translationOptions, renunciationOptions, foreignOptions, h.text]

theorem allFormed_scheduleList_iff (index : Nat) {caption : String} (filled : Text.Filled caption)
    (entries : List String) :
    AllFormed accept (scheduleList style index (caption, entries)) ↔
      ∀ entry ∈ entries, accept entry := by
  simp [scheduleList, Compose.allFormed_enumerationOrNone style h, h.text filled]

/-- Of the schedule, the executors to whom power is reserved, the intestate successors and the
citors are printed as they are. -/
theorem allFormed_schedulePart_iff :
    AllFormed accept (schedulePart style m).blocks ↔ ∀ s ∈ verbatimEntries m, accept s := by
  have spouse : ∀ entry ∈ spouseEntries m.family.spouse, accept entry :=
    fun entry hentry => h entry (filled_spouseEntries m.family.spouse entry hentry)
  have member : ∀ c : FamilyMember, accept (memberEntry c) := fun c => h.text (filled_memberEntry c)
  simp (disch := exact Text.filled_of_head rfl)
    [schedulePart, scheduleLists, allFormed_scheduleList_iff style h, verbatimEntries,
      iff_true_intro spouse, member, or_imp, forall_and]

theorem allFormed_signatures : AllFormed accept (signatures style m).blocks := by
  simp (disch := exact Text.filled_of_head rfl) [signatures, h.append]

theorem allFormed_document_iff :
    AllFormed accept (document style m).blocks ↔ ∀ s ∈ verbatim m, accept s := by
  rw [DocumentContent.allFormed_blocks]
  unfold document verbatim
  split <;>
    simp [allFormed_header style m h, allFormed_deceasedPart_iff style m h,
      allFormed_applicantPart style m h, allFormed_documentsPart style m h,
      allFormed_schedulePart_iff style m h, allFormed_signatures style m h, or_imp, forall_and]

end Submission

/-! ## Affidavits -/

namespace ShortAffidavit

omit h in
theorem formed_standingPassage (d : Deponents) (offset : Nat) (a : Applicant) :
    (standingPassage style d offset a).Formed accept := by
  simp [standingPassage, standingOptions]

theorem allFormed_affidavit (number : Nat) (d : Deponents) :
    AllFormed accept (affidavit style m number d).blocks := by
  have title : Text.Filled title := Text.filled_of_head rfl
  have standings : AllFormed accept (d.membersOrBlank.mapIdx (standingPassage style d)) :=
    allFormed_mapIdx (formed_standingPassage style d) _
  have other : ∀ e : OtherExecutor, accept (otherExecutorEntry e) :=
    fun e => h.text (filled_otherExecutorEntry e)
  simp only [affidavit, allFormed_append]
  simp (disch := exact Text.filled_of_head rfl)
    [Form.allFormed_affidavitOpening style m h _ title, Form.affidavitClose, standings, other,
      recitalOptions, codicilOptions, otherExecutorOptions, executionRecitals, alterationOptions,
      referencedOptions, h.append d.filled_pronoun, h.text, h.append, String.append_assoc,
      -String.reduceAppend]

theorem allFormed_exhibit (number : Nat) (d : Deponents) :
    AllFormed accept (exhibit style m number d).blocks := by
  have attached : accept (attachment m) := by
    unfold attachment
    split <;> exact h.text (Text.filled_of_head rfl)
  simp [exhibit, Form.allFormed_exhibitCertificate style h, attached]

theorem allFormed_document : AllFormed accept (document style m).blocks := by
  rw [DocumentContent.allFormed_blocks]
  intro s hs
  obtain ⟨ss, hss, hs⟩ := List.mem_flatten.mp hs
  obtain ⟨i, _, rfl⟩ := List.mem_mapIdx.mp hss
  rcases List.mem_pair.mp hs with rfl | rfl
  · exact allFormed_affidavit style m h _ _
  · exact allFormed_exhibit style m h _ _

end ShortAffidavit

namespace AdministrationAffidavit

omit h in
theorem formed_priorityPassage (d : Deponents) (offset : Nat) (a : Applicant) :
    (priorityPassage style m d offset a).Formed accept := by
  simp [priorityPassage, priorityOptions]

theorem allFormed_affidavit (number : Nat) (d : Deponents) :
    AllFormed accept (affidavit style m number d).blocks := by
  have title : Text.Filled title := Text.filled_of_head rfl
  have priorities : AllFormed accept (d.membersOrBlank.mapIdx (priorityPassage style m d)) :=
    allFormed_mapIdx (formed_priorityPassage style m d) _
  have child : ∀ c : FamilyMember, accept (childEntry c) := fun c => h.text (filled_childEntry c)
  have successor : ∀ s : IntestateSuccessor, accept (successorEntry s) :=
    fun s => h.text (filled_successorEntry s)
  simp only [affidavit, allFormed_append]
  simp (disch := exact Text.filled_of_head rfl)
    [Form.allFormed_affidavitOpening style m h _ title, Form.affidavitClose, priorities, child,
      successor, spouseOptions, childrenOptions, successorOptions, h.append d.filled_pronoun,
      h.text, h.append, String.append_assoc, -String.reduceAppend]

theorem allFormed_document : AllFormed accept (document style m).blocks := by
  rw [DocumentContent.allFormed_blocks]
  intro s hs
  obtain ⟨i, _, rfl⟩ := List.mem_mapIdx.mp hs
  exact allFormed_affidavit style m h _ _

end AdministrationAffidavit

namespace DeliveryAffidavit

omit h in
theorem allFormed_methodBlocks (method : DeliveryMethod) :
    AllFormed accept (methodBlocks style m method) := by
  cases method <;> simp [methodBlocks, acknowledgement, row, header]

theorem allFormed_affidavit : AllFormed accept (affidavit style m).blocks := by
  have title : Text.Filled title := Text.filled_of_head rfl
  have capacity : ∀ entry ∈ m.deliveries.filterMap capacityEntry?, accept entry :=
    fun entry hentry => h entry (filled_of_mem_capacityEntries hentry)
  simp only [affidavit, allFormed_append, allFormed_flatMap,
    Compose.allFormed_enumerationOrNone style h]
  simp (disch := exact Text.filled_of_head rfl)
    [Form.allFormed_affidavitOpening style m h _ title, Form.affidavitClose,
      allFormed_methodBlocks style m, iff_true_intro capacity, willCopyOptions, demandOptions,
      h.append (Deponents.filled_pronoun _), h.text, h.append, String.append_assoc,
      -String.reduceAppend, -List.mem_filterMap]

theorem allFormed_document : AllFormed accept (document style m).blocks := by
  rw [DocumentContent.allFormed_blocks]
  simp [document, allFormed_affidavit style m h]

end DeliveryAffidavit

namespace AssetsAffidavit

theorem allFormed_affidavit : AllFormed accept (affidavit style m).blocks := by
  have title : Text.Filled title := Text.filled_of_head rfl
  simp (disch := exact Text.filled_of_head rfl)
    [affidavit, Form.allFormed_affidavitOpening style m h _ title, Form.affidavitClose,
      domicileOptions, outsideOptions, h.append (Deponents.filled_pronoun _), h.text, h.append,
      String.append_assoc, -String.reduceAppend]

omit h in
/-- The rows of a table with a total are as long as its rows. -/
theorem length_cells_totalled (width : Nat) {rows : List TableRow} {blank total : List String}
    (rows_width : ∀ row ∈ rows, row.cells.length = width + 1) (blank_width : blank.length = width)
    (total_width : total.length = width) :
    ∀ row ∈ totalled rows blank total, row.cells.length = width + 1 := by
  intro r hr
  rcases List.mem_append.mp hr with body | last
  · split at body
    · obtain rfl := List.mem_singleton.mp body
      exact congrArg Nat.succ blank_width
    · exact rows_width r body
  · obtain rfl := List.mem_singleton.mp last
    exact congrArg Nat.succ total_width

omit h in
theorem formed_securedTable (category : AssetCategory) (assets : List SecuredAsset)
    (total secured : Money) :
    (securedTable style category assets total secured).Formed accept := by
  refine length_cells_totalled 3 (fun r hr => ?_) rfl rfl
  obtain ⟨a, _, rfl⟩ := List.mem_map.mp hr
  unfold securedRow
  cases a.securedDebt <;> rfl

omit h in
theorem formed_valueTable (category : AssetCategory) (assets : List Asset) (total : Money) :
    (valueTable style category assets total).Formed accept := by
  refine length_cells_totalled 1 (fun r hr => ?_) rfl rfl
  obtain ⟨a, _, rfl⟩ := List.mem_map.mp hr
  rfl

omit h in
theorem length_cells_summaryRows (s : AssetSchedule) :
    ∀ r ∈ summaryRows s, r.cells.length = 2 := by
  unfold summaryRows
  split <;> simp [row, totalRow]

theorem allFormed_exhibitA : AllFormed accept (exhibitA style m).blocks := by
  simp (disch := exact Text.filled_of_head rfl)
    [exhibitA, Form.allFormed_exhibitCertificate style h, formed_securedTable style,
      formed_valueTable style, iff_true_intro (length_cells_summaryRows m.assets), h.text]

theorem allFormed_exhibitB : AllFormed accept (exhibitB style m).blocks := by
  simp (disch := exact Text.filled_of_head rfl)
    [exhibitB, Form.allFormed_exhibitCertificate style h, formed_valueTable style, h.text]

theorem allFormed_document : AllFormed accept (document style m).blocks := by
  rw [DocumentContent.allFormed_blocks]
  unfold document
  split <;>
    simp [allFormed_affidavit style m h, allFormed_exhibitA style m h, allFormed_exhibitB style m h]

end AssetsAffidavit

/-! ## Letters -/

theorem CoverLetter.allFormed_document : AllFormed accept (document style m).blocks := by
  have body : AllFormed accept (body style m).blocks := by
    have rows : ∀ r ∈ (enclosures m).mapIdx enclosureRow, r.cells.length = 2 := by
      intro r hr
      obtain ⟨i, _, rfl⟩ := List.mem_mapIdx.mp hr
      rfl
    simp (disch := exact Text.filled_of_head rfl)
      [CoverLetter.body, iff_true_intro rows, h.append, String.append_assoc, -List.mem_mapIdx]
  have salutation : Text.Filled ("To: Supreme Court of British Columbia, Probate Registry, "
      ++ Filler.orDots m.filing.registry 20) := (Text.filled_of_head rfl).append _
  rw [DocumentContent.allFormed_blocks]
  simp [document, Letter.allFormed_head style m h salutation, Letter.allFormed_closing style m h,
    body]

namespace ChecklistLetter

theorem allFormed_signing : AllFormed accept (signing style m).blocks := by
  simp (disch := exact Text.filled_of_head rfl)
    [signing, h.append, String.append_assoc, -String.reduceAppend]

omit h in
theorem allFormed_delivery : AllFormed accept (delivery style m).blocks := by
  simp [delivery, deliveryOptions, submissionOptions]

omit h in
theorem allFormed_creditors : AllFormed accept (creditors style m).blocks := by
  simp [creditors, creditorOptions, creditorRow]

theorem allFormed_copies : AllFormed accept (copies style m).blocks := by
  have said : accept (copiesText m.filing.certifiedCopies) := by
    unfold copiesText
    split <;>
      simp (disch := exact Text.filled_of_head rfl)
        [h.append, String.append_assoc, -String.reduceAppend]
  simp [copies, said]

theorem allFormed_document : AllFormed accept (document style m).blocks := by
  have salutation :
      Text.Filled ("Dear " ++ Form.blankOr 30 m.applicantNames ++ ":") := by
    rw [String.append_assoc]
    exact (Text.filled_of_head rfl).append _
  rw [DocumentContent.allFormed_blocks]
  simp [document, Letter.allFormed_head style m h salutation, Letter.allFormed_closing style m h,
    allFormed_signing style m h, allFormed_delivery style m, allFormed_creditors style m,
    allFormed_copies style m h]

end ChecklistLetter

/-! ## Every form -/

/-- The blocks of a document are well formed, and of its texts only those that the submission
prints as they are may not be filled. -/
theorem EstateModel.allFormed_document_iff (kind : DocumentKind) :
    AllFormed accept (m.document style kind).blocks ↔
      (kind = .submission → ∀ s ∈ Submission.verbatim m, accept s) := by
  cases kind with
  | notice => simp [EstateModel.document, Notice.allFormed_document style m h]
  | submission => simp [EstateModel.document, Submission.allFormed_document_iff style m h]
  | shortAffidavit => simp [EstateModel.document, ShortAffidavit.allFormed_document style m h]
  | administrationAffidavit =>
    simp [EstateModel.document, AdministrationAffidavit.allFormed_document style m h]
  | deliveryAffidavit => simp [EstateModel.document, DeliveryAffidavit.allFormed_document style m h]
  | assetsAffidavit => simp [EstateModel.document, AssetsAffidavit.allFormed_document style m h]
  | registryCoverLetter => simp [EstateModel.document, CoverLetter.allFormed_document style m h]
  | filingChecklistLetter =>
    simp [EstateModel.document, ChecklistLetter.allFormed_document style m h]

end Walk

theorem EstateModel.allFormed_document (kind : DocumentKind) :
    AllFormed (fun _ => True) (m.document style kind).blocks :=
  (m.allFormed_document_iff style (fun _ _ => trivial) kind).mpr fun _ _ _ => trivial

/-- Every document that is written is well formed, of the kind and in the style asked for. -/
theorem EstateModel.document_wellFormed (m : EstateModel) (style : StyleProfile)
    (kind : DocumentKind) :
    (m.document style kind).kind = kind ∧ (m.document style kind).style = style
      ∧ (m.document style kind).WellFormed := by
  refine ⟨?kind, ?style,
    DocumentContent.wellFormed_of_allFormed (m.allFormed_document style kind)⟩
  case kind => cases kind <;> rfl
  case style => cases kind <;> rfl

/-- The paragraphs of a document are filled if the texts are that the submission prints as they
are. -/
theorem EstateModel.bodies_filled_iff (m : EstateModel) (style : StyleProfile)
    (kind : DocumentKind) :
    (∀ p, .paragraph p ∈ (m.document style kind).blocks → Text.Filled p.body) ↔
      (kind = .submission → ∀ s ∈ Submission.verbatim m, Text.Filled s) :=
  (allFormed_iff_bodies (m.allFormed_document style kind)).symm.trans
    (m.allFormed_document_iff style (fun _ filled => filled) kind)

end EstateFiling
