import EstateFiling.Form.Document
import EstateFiling.Proofs.Document.Points
import EstateFiling.Proofs.Document.Wording
import EstateFiling.Proofs.Form.Deponents

/-!
# Who is informed about and who signs

The notice and the submission state who applies, applicant by applicant.  So each applicant
has a block of information in the one and an entry in the other, with a run of dots for a
name that is missing.

These two and the letters end with places to sign.  These are laid out for the names of the
applicants, and an applicant without a name has none.  Each applicant therefore has a place
to sign if all are named, or if there is no more than one of them, and otherwise somebody is
left out (`EstateModel.applicants_sign_iff`).
-/

namespace EstateFiling

/-! ## Places to sign -/

/-- The place to sign that a block is. -/
def Block.signature? : Block → Option SignatureBlock
  | .signature s => some s
  | _ => none

/-- The places to sign among blocks. -/
def signaturesOf (bs : List Block) : List SignatureBlock := bs.filterMap Block.signature?

/-- The names under the places to sign in a document. -/
def DocumentContent.signatories (d : DocumentContent) : List String :=
  (signaturesOf d.blocks).map SignatureBlock.signatory

theorem signaturesOf_append (bs cs : List Block) :
    signaturesOf (bs ++ cs) = signaturesOf bs ++ signaturesOf cs := List.filterMap_append

theorem signaturesOf_ite {p : Prop} [Decidable p] (bs cs : List Block) :
    signaturesOf (if p then bs else cs) = if p then signaturesOf bs else signaturesOf cs :=
  apply_ite ..

/-- The names under the places to sign, section by section. -/
theorem DocumentContent.signatories_eq (d : DocumentContent) :
    d.signatories =
      (d.sections.flatMap fun s => signaturesOf s.blocks).map SignatureBlock.signatory := by
  unfold signatories signaturesOf blocks
  rw [List.filterMap_flatMap]

theorem Compose.signaturesOf_enumerationOrNone (style : StyleProfile) (entries : List String) :
    signaturesOf (enumerationOrNone style entries) = [] :=
  filterMap_enumerationOrNone style (fun _ => rfl) entries

theorem Compose.signature?_signature (style : StyleProfile) (signatory caption : String) :
    (signature style signatory caption).signature? =
      some ⟨Filler.underline 40, Filler.orDots signatory 30, caption, style.bodySize⟩ := rfl

theorem Compose.signatories_signatures (style : StyleProfile) (names : List String)
    (caption : String) :
    (signaturesOf (signatures style names caption)).map SignatureBlock.signatory =
      (if names.isEmpty then [""] else names).map fun name => Filler.orDots name 30 := by
  unfold signaturesOf signatures
  rw [List.filterMap_map, List.map_filterMap, ← List.filterMap_eq_map]
  simp only [Function.comp_def, signature?_signature, Option.map_some]

/-! ## The names that are listed -/

namespace EstateModel

variable (m : EstateModel)

/-- The names under the places to sign: those of the applicants who have one, or a run of
dots. -/
def signingNames : List String :=
  if m.applicantNames = [] then [Filler.dots 30] else m.applicantNames

/-- Whoever applies is on a list of names: everybody has one, or nobody else applies. -/
def EveryoneListed : Prop := m.applicants.length ≤ 1 ∨ ∀ a ∈ m.applicants, a.displayName ≠ ""

theorem mem_applicantNames {name : String} (h : name ∈ m.applicantNames) :
    ∃ a ∈ m.applicants, a.displayName = name ∧ a.displayName ≠ "" := by
  obtain ⟨given, filled⟩ := List.mem_filter.mp h
  obtain ⟨a, ha, rfl⟩ := List.mem_map.mp given
  exact ⟨a, ha, rfl, by simpa using filled⟩

/-- Names are printed as they are. -/
theorem map_orDots_applicantNames :
    (if m.applicantNames.isEmpty then [""] else m.applicantNames).map
      (fun name => Filler.orDots name 30) = m.signingNames := by
  have printed : m.applicantNames.map (fun name => Filler.orDots name 30) = m.applicantNames := by
    refine (List.map_congr_left fun name hname => ?_).trans (List.map_id' _)
    obtain ⟨a, _, rfl, named⟩ := m.mem_applicantNames hname
    exact Applicant.printedName_of_named named
  unfold signingNames
  simp only [List.isEmpty_iff]
  split
  · rfl
  · exact printed

theorem length_signingNames : m.signingNames.length = max 1 m.applicantNames.length := by
  unfold signingNames
  split
  · rename_i unnamed
    rw [unnamed]
    rfl
  · rename_i named
    have := List.length_pos_of_ne_nil named
    omega

theorem length_applicantNames_le : m.applicantNames.length ≤ m.applicants.length := by
  rw [← List.length_map Applicant.displayName]
  exact List.length_filter_le _ _

theorem length_applicantNames_eq_iff :
    m.applicantNames.length = m.applicants.length ↔ ∀ a ∈ m.applicants, a.displayName ≠ "" := by
  rw [← List.length_map Applicant.displayName, applicantNames, List.length_filter_eq_length_iff,
    List.forall_mem_map]
  simp only [Bool.not_eq_true', String.isEmpty_eq_false_iff, ne_eq]

/-- Names that are left out are places to sign that are missing. -/
theorem length_signingNames_eq_iff :
    m.signingNames.length = max 1 m.applicants.length ↔ m.EveryoneListed := by
  have le := m.length_applicantNames_le
  rw [length_signingNames, EveryoneListed, ← length_applicantNames_eq_iff]
  omega

variable {m}

theorem signingNames_of_named (somebody : m.applicants ≠ [])
    (named : ∀ a ∈ m.applicants, a.displayName ≠ "") :
    m.signingNames = (Deponents.together m).printedNames := by
  have all : m.applicantNames = m.applicants.map Applicant.displayName := by
    refine List.filter_eq_self.mpr (List.forall_mem_map.mpr fun a ha => ?_)
    simpa using named a ha
  have printed : m.applicants.map Applicant.printedName
      = m.applicants.map Applicant.displayName :=
    List.map_congr_left fun a ha => Applicant.printedName_of_named (named a ha)
  have members : (Deponents.together m).membersOrBlank = m.applicants :=
    Deponents.membersOrBlank_of_ne_nil somebody
  rw [signingNames, all, if_neg (by simpa using somebody), Deponents.printedNames, members, printed]

/-- One blank place is left for an applicant who has no name. -/
theorem signingNames_of_unnamed {a : Applicant} (only : m.applicants = [a])
    (unnamed : a.displayName = "") : m.signingNames = (Deponents.together m).printedNames := by
  have noNames : m.applicantNames = [] := by
    rw [applicantNames, only, List.map_singleton, unnamed]
    rfl
  rw [signingNames, if_pos noNames, Deponents.printedNames, Deponents.membersOrBlank_together, only]
  exact congrArg (fun name => [name]) (Applicant.printedName_of_unnamed unnamed).symm

theorem signingNames_eq_printedNames_iff (m : EstateModel) :
    m.signingNames = (Deponents.together m).printedNames ↔ m.EveryoneListed := by
  refine ⟨fun same => ?_, fun listed => ?_⟩
  · rw [← length_signingNames_eq_iff, same, Deponents.printedNames, List.length_map,
      Deponents.length_membersOrBlank]
    rfl
  · by_cases named : ∀ a ∈ m.applicants, a.displayName ≠ ""
    · by_cases nobody : m.applicants = []
      · unfold signingNames applicantNames Deponents.printedNames
        rw [Deponents.membersOrBlank_together, nobody]
        rfl
      · exact signingNames_of_named nobody named
    · -- There is one applicant, who has no name.
      have few := listed.resolve_right named
      push Not at named
      obtain ⟨a, ha, unnamed⟩ := named
      have one : m.applicants.length = 1 :=
        Nat.le_antisymm few (List.length_pos_of_mem ha)
      obtain ⟨b, only⟩ := List.length_eq_one_iff.mp one
      rw [only, List.mem_singleton] at ha
      subst ha
      exact signingNames_of_unnamed only unnamed

end EstateModel

/-! ## Signatures in the documents -/

section Documents

variable (style : StyleProfile) (m : EstateModel)

/-- The applicants sign a document whose only places to sign are for their names. -/
theorem DocumentContent.signatories_of_signatures {d : DocumentContent} (caption : String)
    (only : (d.sections.flatMap fun s => signaturesOf s.blocks) =
      signaturesOf (Compose.signatures style m.applicantNames caption)) :
    d.signatories = m.signingNames := by
  rw [d.signatories_eq, only, Compose.signatories_signatures, m.map_orDots_applicantNames]

theorem Notice.signatories_document : (document style m).signatories = m.signingNames := by
  have application : signaturesOf (application style m).blocks = [] := by
    unfold Notice.application
    rw [signaturesOf_append, signaturesOf_ite]
    exact ite_self ([] : List SignatureBlock)
  have applicants : signaturesOf (applicants style m).blocks = [] := by
    have blank : signaturesOf ((Deponents.together m).membersOrBlank.mapIdx
        (applicantBlocks style)).flatten = [] :=
      filterMap_flatten_mapIdx_eq_nil (fun _ _ => rfl) _
    unfold Notice.applicants
    rw [signaturesOf_append, blank]
    rfl
  have notices : signaturesOf (notices style m).blocks = [] := by
    unfold Notice.notices
    rw [signaturesOf_append, signaturesOf_ite]
    exact ite_self ([] : List SignatureBlock)
  refine DocumentContent.signatories_of_signatures style m "Signature of applicant" ?_
  unfold document
  simp only [List.flatMap_cons, List.flatMap_nil, application, applicants, notices,
    List.append_nil]
  rfl

theorem Submission.signatories_document : (document style m).signatories = m.signingNames := by
  have deceased : signaturesOf (deceasedPart style m).blocks = [] := by
    unfold deceasedPart
    simp only [signaturesOf_append, Compose.signaturesOf_enumerationOrNone]
    rfl
  have applicant : signaturesOf (applicantPart style m).blocks = [] := by
    have entries : signaturesOf ((Deponents.together m).membersOrBlank.mapIdx
        (contactEntry style)) = [] := filterMap_mapIdx_eq_nil (fun _ _ => rfl) _
    unfold applicantPart
    rw [signaturesOf_append, entries]
    rfl
  have schedule : signaturesOf (schedulePart style m).blocks = [] := by
    have plain : ∀ i list, signaturesOf (scheduleList style i list) = [] := fun _ list =>
      Compose.signaturesOf_enumerationOrNone style list.2
    exact filterMap_flatten_mapIdx_eq_nil plain (scheduleLists m)
  refine DocumentContent.signatories_of_signatures style m "Signature of applicant" ?_
  unfold document
  split <;>
    simp only [List.flatMap_cons, List.flatMap_nil, List.flatMap_append, deceased, applicant,
      schedule, List.append_nil] <;> rfl

theorem CoverLetter.signatories_document : (document style m).signatories = m.signingNames := by
  refine DocumentContent.signatories_of_signatures style m "Applicant" ?_
  unfold document
  simp only [List.flatMap_cons, List.flatMap_nil, List.append_nil]
  rfl

theorem ChecklistLetter.signatories_document :
    (document style m).signatories = m.signingNames := by
  have signing : signaturesOf (signing style m).blocks = [] := by
    unfold ChecklistLetter.signing
    split <;> rfl
  have creditors : signaturesOf (creditors style m).blocks = [] := by
    unfold ChecklistLetter.creditors
    split <;> rfl
  refine DocumentContent.signatories_of_signatures style m "Applicant" ?_
  unfold document
  simp only [List.flatMap_cons, List.flatMap_nil, signing, creditors, List.append_nil]
  rfl

end Documents

/-! ## Information about the applicants -/

/-- The lines that inform of one applicant: a caption with the number, the name and the
mailing address. -/
def informationLines (index : Nat) (a : Applicant) : List Line :=
  [⟨none, "Applicant " ++ toString (index + 1)⟩, ⟨none, "Name: " ++ a.printedName⟩,
    ⟨none, "Mailing address: " ++ Filler.addressOrDots a.address 40⟩]

/-- A document informs of applicants: the section about them begins with the lines of each,
in order, and no other paragraph begins like one of these lines. -/
structure DocumentContent.InformsOf (d : DocumentContent) (applicants : List Applicant) :
    Prop where
  /-- The lines of each applicant stand together. -/
  lines : ∃ s, d.section? "applicants" = some s
    ∧ (applicants.mapIdx informationLines).flatten <+: s.read
  /-- The captions count the applicants. -/
  captions : d.after "Applicant " = applicants.mapIdx fun i _ => toString (i + 1)
  /-- There is one name for each. -/
  names : d.after "Name: " = applicants.map Applicant.printedName
  /-- There is one mailing address for each. -/
  addresses : d.after "Mailing address: " =
    applicants.map fun a => Filler.addressOrDots a.address 40

/-- What a line with a number in front says after some words, with the number. -/
def Line.numberedAfter? (words : String) (l : Line) : Option (String × String) :=
  (l.mark.filter isNumber).bind fun number =>
    (Text.after? words l.text).map fun said => (number, said)

/-- What the lines of a document with a number in front say after some words. -/
def DocumentContent.numberedAfter (d : DocumentContent) (words : String) :
    List (String × String) :=
  d.sections.flatMap fun s => s.read.filterMap (Line.numberedAfter? words)

/-- The words with which the lines about an applicant begin. -/
def informationWords : List String := ["Applicant ", "Name: ", "Mailing address: "]

/-- Lists of blocks that say one thing each. -/
theorem saidAfter_flatten_mapIdx {α : Type} {words : String} {f : Nat → α → List Block}
    {h : Nat → α → String} (single : ∀ i a, saidAfter words (f i a) = [h i a]) (xs : List α) :
    saidAfter words (xs.mapIdx f).flatten = xs.mapIdx h := by
  unfold saidAfter
  rw [List.filterMap_flatten, ← List.flatMap_def]
  exact flatMap_mapIdx_singleton single xs

namespace Notice

variable (style : StyleProfile) (m : EstateModel)

theorem saidAfter_notices {words : String} (h : words ∈ informationWords) :
    saidAfter words (notices style m).blocks = [] := by
  revert words
  simp (disch := decide) only [informationWords, List.forall_mem_cons, List.not_mem_nil, notices,
    saidAfter_append, saidAfter_cons, saidAfter_nil, saidAfter_ite, Compose.after?_numbered,
    Compose.after?_passage, Text.after?_append_of_apart, Option.toList_none, List.append_nil,
    ite_self, false_imp_iff, implies_true, and_self]

/-- Only the section about the applicants says something after these words. -/
theorem after_eq_applicants {words : String} (h : words ∈ informationWords) :
    (document style m).after words = saidAfter words (applicants style m).blocks := by
  have silent : ∀ words ∈ informationWords,
      saidAfter words (header style m).blocks = []
      ∧ saidAfter words (application style m).blocks = []
      ∧ saidAfter words (signatures style m).blocks = [] := by
    simp (disch := decide) [informationWords, header, application, signatures, Form.reference,
      Form.courtCaption, title, String.append_assoc, -String.reduceAppend]
  obtain ⟨header, application, signatures⟩ := silent words h
  rw [DocumentContent.after_eq]
  unfold document
  simp only [List.flatMap_cons, List.flatMap_nil, header, application, saidAfter_notices style m h,
    signatures, List.nil_append, List.append_nil]

/-- The section about the applicants says one thing about each of them. -/
theorem saidAfter_applicants {words : String} (h : words ∈ informationWords)
    {said : Nat → Applicant → String}
    (single : ∀ i a, saidAfter words (applicantBlocks style i a) = [said i a]) :
    saidAfter words (applicants style m).blocks =
      (Deponents.together m).membersOrBlank.mapIdx said := by
  have service : ∀ words ∈ informationWords,
      saidAfter words
        [Compose.passage style serviceAddress m (serviceOptions m)
          (some "Address for service of the applicant(s):"),
        Compose.paragraph style
          ("Email address for service: " ++ Filler.orDots m.filing.serviceEmail 30)
          { indent := 1 },
        Compose.paragraph style
          ("Telephone number for service: " ++ Filler.orDots m.filing.servicePhone 20)
          { indent := 1 }] = [] := by
    simp (disch := decide) [informationWords]
  unfold applicants
  rw [saidAfter_append, saidAfter_flatten_mapIdx single, service words h, List.append_nil]

theorem informsOf_document :
    (document style m).InformsOf (Deponents.together m).membersOrBlank where
  lines := by
    have each : ∀ i a, (applicantBlocks style i a).filterMap Block.line? = informationLines i a :=
      fun i a => by simp [applicantBlocks, informationLines, Applicant.printedName]
    refine ⟨applicants style m, rfl, ?_⟩
    unfold Section.read applicants
    rw [List.filterMap_append, List.filterMap_flatten, map_mapIdx]
    simp only [each]
    exact List.prefix_append _ _
  captions := by
    refine (after_eq_applicants style m (by decide)).trans (saidAfter_applicants style m
      (by decide) fun i a => ?_)
    simp (disch := decide) [applicantBlocks]
  names := by
    rw [after_eq_applicants style m (by decide), ← mapIdx_of_item]
    refine saidAfter_applicants style m (by decide) fun i a => ?_
    simp (disch := decide) [applicantBlocks, Applicant.printedName]
  addresses := by
    rw [after_eq_applicants style m (by decide), ← mapIdx_of_item]
    refine saidAfter_applicants style m (by decide) fun i a => ?_
    simp (disch := decide) [applicantBlocks]

end Notice

namespace Submission

variable (style : StyleProfile) (m : EstateModel)

/-- No line with a number in front says something after some words. -/
def Silent (words : String) (ls : List Line) : Prop :=
  ∀ l ∈ ls, l.isCaption = true → Text.after? words l.text = none

theorem Silent.filterMap_eq_nil {words : String} {ls : List Line} (h : Silent words ls) :
    ls.filterMap (Line.numberedAfter? words) = [] := by
  refine List.filterMap_eq_nil_iff.mpr fun l hl => ?_
  unfold Line.numberedAfter?
  cases number : l.mark.filter isNumber with
  | none => rfl
  | some mark =>
    have caption : l.isCaption = true := by
      obtain ⟨marked, isNumber⟩ := Option.filter_eq_some_iff.mp number
      rw [Line.isCaption, marked, Option.any_some, isNumber]
    rw [h l hl caption]
    rfl

section Silent

variable (words : String)

@[simp] theorem silent_nil : Silent words [] := List.forall_mem_nil _

@[simp] theorem silent_cons (l : Line) (ls : List Line) :
    Silent words (l :: ls) ↔
      (l.isCaption = true → Text.after? words l.text = none) ∧ Silent words ls :=
  List.forall_mem_cons

@[simp] theorem silent_append (ls ls' : List Line) :
    Silent words (ls ++ ls') ↔ Silent words ls ∧ Silent words ls' := List.forall_mem_append

@[simp] theorem silent_listed (entries : List String) : Silent words (listed entries) := by
  intro l hl caption
  rw [isCaption_of_mem_listed l hl] at caption
  cases caption

end Silent

theorem silent_header : Silent "Name: " (header style m).read := by
  simp (disch := decide) [Section.read, header, Form.reference, Form.courtCaption, Compose.text,
    Line.isCaption, List.filterMap_cons]

theorem silent_deceasedPart : Silent "Name: " (deceasedPart style m).read := by
  simp (disch := decide) [Section.read, deceasedPart, List.filterMap_cons]

theorem silent_documentsPart : Silent "Name: " (documentsPart style m).read := by
  simp (disch := decide) [Section.read, documentsPart, List.filterMap_cons]

theorem silent_schedulePart : Silent "Name: " (schedulePart style m).read := by
  simp (disch := decide) [Section.read, schedulePart, scheduleLists, scheduleList,
    List.mapIdx_cons, List.filterMap_cons]

theorem silent_signatures : Silent "Name: " (signatures style m).read := by
  have places : ∀ names caption,
      (Compose.signatures style names caption).filterMap Block.line? = [] :=
    Compose.filterMap_signatures style fun _ => rfl
  simp [Section.read, signatures, Compose.dateLine, Compose.text, places, Line.isCaption]

/-- The line with the name and the address of an applicant. -/
def contactLine (index : Nat) (a : Applicant) : Line :=
  ⟨some (toString (index + 1) ++ "."),
    "Name: " ++ (a.printedName ++ "  Address: " ++ Filler.addressOrDots a.address 40)⟩

theorem line?_contactEntry (index : Nat) (a : Applicant) :
    (contactEntry style index a).line? = some (contactLine index a) := by
  rw [contactEntry, Compose.line?_numbered, String.append_assoc, String.append_assoc]
  unfold contactLine Applicant.printedName
  rw [String.append_assoc]

theorem numberedAfter?_contactLine (index : Nat) (a : Applicant) :
    (contactLine index a).numberedAfter? "Name: " =
      some (toString (index + 1) ++ ".",
        a.printedName ++ "  Address: " ++ Filler.addressOrDots a.address 40) := by
  have number : isNumber (toString (index + 1) ++ ".") = true :=
    isNumber_toString_append (index + 1) "."
  unfold contactLine Line.numberedAfter?
  rw [Option.filter_some, if_pos number, Option.bind_some, Text.after?_append, Option.map_some]

theorem numberedAfter_applicantPart :
    (applicantPart style m).read.filterMap (Line.numberedAfter? "Name: ") =
      (Deponents.together m).membersOrBlank.mapIdx fun i a =>
        (toString (i + 1) ++ ".",
          a.printedName ++ "  Address: " ++ Filler.addressOrDots a.address 40) := by
  unfold Section.read applicantPart
  rw [List.filterMap_append, filterMap_mapIdx (line?_contactEntry style), List.filterMap_append,
    filterMap_mapIdx numberedAfter?_contactLine]
  -- The lines about service have no number.
  refine (congrArg _ (Silent.filterMap_eq_nil ?_)).trans (List.append_nil _)
  simp [Compose.text, List.filterMap_cons, Line.isCaption]

theorem numberedAfter_document :
    (document style m).numberedAfter "Name: " =
      (Deponents.together m).membersOrBlank.mapIdx fun i a =>
        (toString (i + 1) ++ ".",
          a.printedName ++ "  Address: " ++ Filler.addressOrDots a.address 40) := by
  have schedule : (if m.grantType.impliesWill then [schedulePart style m] else []).flatMap
      (fun s => s.read.filterMap (Line.numberedAfter? "Name: ")) = [] := by
    split
    · simp [(silent_schedulePart style m).filterMap_eq_nil]
    · rfl
  unfold DocumentContent.numberedAfter document
  simp only [List.flatMap_append, List.flatMap_cons, List.flatMap_nil, schedule,
    (silent_header style m).filterMap_eq_nil, (silent_deceasedPart style m).filterMap_eq_nil,
    (silent_documentsPart style m).filterMap_eq_nil, (silent_signatures style m).filterMap_eq_nil,
    numberedAfter_applicantPart, List.nil_append, List.append_nil]

end Submission

/-! ## Everyone -/

/-- The kinds of documents that the applicants sign, other than their affidavits. -/
def DocumentKind.signedByApplicants : List DocumentKind :=
  [.notice, .submission, .registryCoverLetter, .filingChecklistLetter]

namespace EstateModel

theorem signatories_document (m : EstateModel) (style : StyleProfile) :
    ∀ kind ∈ DocumentKind.signedByApplicants,
      (m.document style kind).signatories = m.signingNames := by
  simp only [DocumentKind.signedByApplicants, List.forall_mem_cons]
  exact ⟨Notice.signatories_document style m, Submission.signatories_document style m,
    CoverLetter.signatories_document style m, ChecklistLetter.signatories_document style m,
    List.forall_mem_nil _⟩

/-- Who is informed about and who signs.  The notice informs of every applicant and the
submission has an entry for every one, in order, with one blank where nobody applies.  In
each of the documents they sign there are places for the applicants with a name, so there
are as many places as applicants, each with the name or the blank of its applicant, exactly
where everybody is listed. -/
theorem applicants_sign_iff (m : EstateModel) (style : StyleProfile) :
    (Deponents.together m).membersOrBlank.length = max 1 m.applicants.length
    ∧ (m.document style .notice).InformsOf (Deponents.together m).membersOrBlank
    ∧ (m.document style .submission).numberedAfter "Name: " =
      (Deponents.together m).membersOrBlank.mapIdx (fun i a =>
        (toString (i + 1) ++ ".",
          a.printedName ++ "  Address: " ++ Filler.addressOrDots a.address 40))
    ∧ ∀ kind ∈ DocumentKind.signedByApplicants,
      (m.document style kind).signatories = m.signingNames
      ∧ ((m.document style kind).signatories.length = max 1 m.applicants.length
        ↔ m.EveryoneListed)
      ∧ ((m.document style kind).signatories = (Deponents.together m).printedNames
        ↔ m.EveryoneListed) := by
  refine ⟨(Deponents.together m).length_membersOrBlank, Notice.informsOf_document style m,
    Submission.numberedAfter_document style m, fun kind hkind => ?_⟩
  have signatories := m.signatories_document style kind hkind
  refine ⟨signatories, ?_, ?_⟩
  · rw [signatories]
    exact m.length_signingNames_eq_iff
  · rw [signatories]
    exact m.signingNames_eq_printedNames_iff

/-- Two applicants, one of whom has no name. -/
def annAndUnnamed : EstateModel where
  applicants := [{ name := { first := "Ann", last := "Lee" } }, {}]

theorem annAndUnnamed_lacks_signature :
    ¬∃ kind ∈ DocumentKind.signedByApplicants,
      (annAndUnnamed.document .standard kind).signatories.length =
        max 1 annAndUnnamed.applicants.length := by
  rintro ⟨kind, hkind, each⟩
  rw [signatories_document annAndUnnamed .standard kind hkind] at each
  exact absurd each (by decide)

end EstateModel

end EstateFiling
