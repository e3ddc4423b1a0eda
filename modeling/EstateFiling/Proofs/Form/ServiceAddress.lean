import EstateFiling.Proofs.Case.Shape
import EstateFiling.Proofs.Document.Wording
import EstateFiling.Proofs.Form.CheckedBoxes

/-!
# The address for service

Three documents print where the applicants can be served.  The submission and the cover
letter print the address for service, or else the first applicant's.  The notice has two
boxes, one for the mailing address of the first applicant and one for another address,
and what it designates is read off the checked one (`DocumentContent.designated`).

The three are one text (`EstateModel.namesOneAddress`).  For the notice this is so because
its second box is checked exactly if the address for service is another than the first
applicant's (`Notice.checks_distinct_iff`): where it is not, the two addresses are equal
or there is only one, and the mailing address will do.
-/

namespace EstateFiling

/-! ## The address of an estate -/

namespace EstateModel

/-- Where the applicants are served: at the address for service, or else at the address of
the first of them. -/
def servedAt? (m : EstateModel) : Option Address :=
  m.filing.addressForService <|> m.applicants.head?.map Applicant.address

/-- Where the applicants are served, on one line, or a run of dots. -/
def servedAt (m : EstateModel) : String :=
  match m.servedAt? with
  | some a => Filler.addressOrDots a 40
  | none => Filler.dots 40

end EstateModel

/-- An address without any part is printed as a run of dots. -/
theorem Address.addressOrDots_of_isEmpty {a : Address} (h : a.isEmpty = true) (width : Nat) :
    Filler.addressOrDots a width = Filler.dots width := by
  have blank : a.text = "" := by
    rw [isEmpty_eq_all, List.all_eq_true] at h
    unfold text
    rw [List.filter_eq_nil_iff.mpr fun part hpart => by simp [h part hpart]]
    rfl
  unfold Filler.addressOrDots
  rw [blank]
  rfl

namespace EstateModel

variable {m : EstateModel}

theorem servedAt_of_given {s : Address} (h : m.filing.addressForService = some s) :
    m.servedAt = Filler.addressOrDots s 40 := by
  unfold servedAt servedAt?
  rw [h]
  rfl

/-- Without an address for service it is the address of the first applicant, who may be
blank. -/
theorem servedAt_of_not_given (h : m.filing.addressForService = none) :
    m.servedAt = Filler.addressOrDots (m.applicants.head?.getD {}).address 40 := by
  unfold servedAt servedAt?
  rw [h]
  cases m.applicants with
  | nil => exact (Address.addressOrDots_of_isEmpty rfl 40).symm
  | cons a rest => rfl

theorem servedAt_of_blank (h : ∀ a ∈ m.servedAt?, a.isEmpty = true) :
    m.servedAt = Filler.dots 40 := by
  unfold servedAt
  cases place : m.servedAt? with
  | none => rfl
  | some a => exact Address.addressOrDots_of_isEmpty (h a place) 40

end EstateModel

variable (style : StyleProfile) (m : EstateModel)

/-! ## Submission -/

namespace Submission

theorem orDots_serviceText : Filler.orDots (serviceText m) 40 = m.servedAt := by
  unfold serviceText EstateModel.servedAt EstateModel.servedAt?
  cases m.filing.addressForService with
  | some a => rfl
  | none => cases m.applicants <;> rfl

/-- The entry of an applicant begins with a number. -/
theorem saidAfter_contactEntries (applicants : List Applicant) :
    saidAfter "Address for service: " (applicants.mapIdx (contactEntry style)) = [] := by
  refine filterMap_mapIdx_eq_nil (fun i a => ?_) applicants
  rw [contactEntry, Compose.after?_numbered, String.append_assoc]
  exact Text.after?_toString_append (by decide) _ _

theorem saidAfter_scheduleLists (lists : List (String × List String)) :
    saidAfter "Address for service: " (lists.mapIdx (scheduleList style)).flatten = [] := by
  refine filterMap_flatten_mapIdx_eq_nil (fun i list => ?_) lists
  show saidAfter _ (scheduleList style i list) = []
  rw [scheduleList, saidAfter_cons, Compose.after?_numbered, String.append_assoc,
    Text.after?_toString_append (by decide),
    Compose.saidAfter_enumerationOrNone style (by decide) (by decide)]
  rfl

theorem saidAfter_header : saidAfter "Address for service: " (header style m).blocks = [] := by
  simp (disch := decide) [header, Form.reference, Form.courtCaption, title, String.append_assoc,
    -String.reduceAppend]

theorem saidAfter_deceasedPart :
    saidAfter "Address for service: " (deceasedPart style m).blocks = [] := by
  simp (disch := decide) [deceasedPart]

theorem saidAfter_documentsPart :
    saidAfter "Address for service: " (documentsPart style m).blocks = [] := by
  simp (disch := decide) [documentsPart]

theorem saidAfter_signatures :
    saidAfter "Address for service: " (signatures style m).blocks = [] := by
  simp (disch := decide) [signatures]

theorem saidAfter_applicantPart :
    saidAfter "Address for service: " (applicantPart style m).blocks = [m.servedAt] := by
  simp (disch := decide) [applicantPart, saidAfter_contactEntries, orDots_serviceText,
    String.append_assoc]

theorem after_addressForService :
    (document style m).after "Address for service: " = [m.servedAt] := by
  have schedule : (if m.grantType.impliesWill then [schedulePart style m] else []).flatMap
      (fun s => saidAfter "Address for service: " s.blocks) = [] := by
    split
    · simp [schedulePart, saidAfter_scheduleLists]
    · rfl
  rw [DocumentContent.after_eq]
  unfold document
  simp only [List.flatMap_append, schedule, List.flatMap_cons, List.flatMap_nil, saidAfter_header,
    saidAfter_deceasedPart, saidAfter_applicantPart, saidAfter_documentsPart,
    saidAfter_signatures, List.nil_append, List.append_nil]

end Submission

/-! ## Cover letter -/

namespace CoverLetter

theorem correspondence_eq : correspondence m = m.servedAt := by
  unfold correspondence EstateModel.servedAt EstateModel.servedAt?
  cases m.filing.addressForService with
  | some a => rfl
  | none => cases m.applicants <;> rfl

theorem after_pleaseDirect :
    (document style m).after "Please direct any correspondence about this application to " =
      [m.servedAt ++ "."] := by
  simp (disch := decide) [DocumentContent.after_eq, document, Letter.head, body, Letter.closing,
    correspondence_eq, String.append_assoc]

end CoverLetter

/-! ## Notice -/

/-- The address for service that a notice designates: the one beside the box for another
address if that is checked, and the mailing address of the first applicant otherwise. -/
def DocumentContent.designated (d : DocumentContent) : List String :=
  if d.Checks "service_address" "distinct" then
    (d.labels "service_address" "distinct").filterMap (Text.after? "The address for service is: ")
  else (d.under? "Applicant 1" "Mailing address: ").toList

namespace Notice

/-- The second box is checked exactly if the address for service is another than the
first applicant's. -/
theorem checks_distinct_iff :
    (m.document style .notice).Checks "service_address" "distinct" ↔
      ∃ s, m.filing.addressForService = some s
        ∧ ∀ a, m.applicants.head? = some a → a.address ≠ s := by
  refine (m.checks_clause_iff style (t := serviceAddress)
    (by simp [DocumentKind.passages, passages]) (by decide) _).trans ?_
  cases given : m.filing.addressForService with
  | none => simp [ClauseTable.Settles, serviceAddress, given]
  | some s =>
    cases first : m.applicants with
    | nil => simp [ClauseTable.Settles, serviceAddress, given, first]
    | cons a rest => simp [ClauseTable.Settles, serviceAddress, given, first]

theorem labels_distinct :
    (document style m).labels "service_address" "distinct" =
      ["The address for service is: " ++ Filler.orDots (serviceText m) 40] := by
  have once : "service_address" ∉
      ((Compose.passageGroup style willBasis m (basisOptions m)
          :: (if (willBasis.select m).isActive "electronic_will" then
              [Compose.passageGroup style electronicWillCopy m (electronicWillOptions m)]
            else []))
        ++ [Compose.passageGroup style indigenousNotice m (indigenousOptions m)
            (some "Indigenous status of the deceased:")]).map CheckboxGroup.id := by
    split
    · exact (by decide : "service_address" ∉
        ["will_basis", "electronic_will_copy", "indigenous_notice"])
    · exact (by decide : "service_address" ∉ ["will_basis", "indigenous_notice"])
  exact DocumentContent.labels_passage (t := serviceAddress) (checkboxGroups_document style m)
    once "distinct"

theorem saidAfter_before :
    saidAfter "Applicant 1" ((header style m).blocks ++ (application style m).blocks) = [] := by
  simp (disch := decide) [header, application, Form.reference, Form.courtCaption, title,
    String.append_assoc]

/-- The first applicant comes first. -/
theorem blocks_applicants :
    ∃ rest, (applicants style m).blocks =
      Compose.paragraph style ("Applicant " ++ toString 1) { bold := true }
        :: Compose.paragraph style
          ("Name: " ++ Filler.orDots (m.applicants.head?.getD {}).displayName 30) { indent := 1 }
        :: Compose.paragraph style
          ("Mailing address: " ++ Filler.addressOrDots (m.applicants.head?.getD {}).address 40)
          { indent := 1 }
        :: rest := by
  unfold applicants
  rw [Deponents.membersOrBlank_together, List.mapIdx_cons, List.flatten_cons]
  exact ⟨_, rfl⟩

theorem under_applicant :
    (document style m).under? "Applicant 1" "Mailing address: " =
      some (Filler.addressOrDots (m.applicants.head?.getD {}).address 40) := by
  obtain ⟨rest, first⟩ := blocks_applicants style m
  have blocks := show (document style m).blocks =
      ((header style m).blocks ++ (application style m).blocks)
        ++ ((applicants style m).blocks
          ++ ((notices style m).blocks ++ (signatures style m).blocks)) by
    simp only [DocumentContent.blocks, document, List.flatMap_cons, List.flatMap_nil,
      List.append_nil, List.append_assoc]
  rw [first, List.cons_append, List.cons_append, List.cons_append] at blocks
  rw [DocumentContent.under?_eq blocks (saidAfter_before style m)
    ((Compose.isText_paragraph ..).trans (by decide))]
  simp (disch := decide) only [List.findSome?_cons, Compose.after?_paragraph,
    Text.after?_append_of_apart, Text.after?_append]

/-- What the notice designates is where the applicants are served. -/
theorem designated_document : (m.document style .notice).designated = [m.servedAt] := by
  unfold DocumentContent.designated
  split
  · rename_i distinct
    obtain ⟨s, given, _⟩ := (checks_distinct_iff style m).mp distinct
    have label : (m.document style .notice).labels "service_address" "distinct" =
        ["The address for service is: " ++ m.servedAt] := by
      rw [EstateModel.servedAt_of_given given, EstateModel.document, labels_distinct, serviceText,
        given]
      rfl
    rw [label, List.filterMap_cons, Text.after?_append, List.filterMap_nil]
  · rename_i mailing
    -- The mailing address is meant, so it is the address for service if there is one.
    have same : m.servedAt = Filler.addressOrDots (m.applicants.head?.getD {}).address 40 := by
      cases given : m.filing.addressForService with
      | none => exact EstateModel.servedAt_of_not_given given
      | some s =>
        rw [checks_distinct_iff] at mailing
        push Not at mailing
        obtain ⟨a, first, rfl⟩ := mailing s given
        rw [EstateModel.servedAt_of_given given, first]
        rfl
    rw [EstateModel.document, under_applicant, same]
    rfl

end Notice

/-! ## All three documents -/

/-- The submission, the cover letter and the notice name one address. -/
structure EstateModel.NamesOneAddress (m : EstateModel) (style : StyleProfile) : Prop where
  /-- The submission prints it once. -/
  submission : (m.document style .submission).after "Address for service: " = [m.servedAt]
  /-- The letter asks once that correspondence be sent there. -/
  letter : (m.document style .registryCoverLetter).after
    "Please direct any correspondence about this application to " = [m.servedAt ++ "."]
  /-- The notice designates it. -/
  notice : (m.document style .notice).designated = [m.servedAt]
  /-- It is a run of dots where there is no address, or a blank one. -/
  blank : (∀ a ∈ m.servedAt?, a.isEmpty = true) → m.servedAt = Filler.dots 40
  /-- The notice names another address than the first applicant's exactly if one is given. -/
  distinct : (m.document style .notice).Checks "service_address" "distinct" ↔
    ∃ s, m.filing.addressForService = some s
      ∧ ∀ a, m.applicants.head? = some a → a.address ≠ s

/-- There is one address for service. -/
theorem EstateModel.namesOneAddress (m : EstateModel) (style : StyleProfile) :
    m.NamesOneAddress style where
  submission := Submission.after_addressForService style m
  letter := CoverLetter.after_pleaseDirect style m
  notice := Notice.designated_document style m
  blank := servedAt_of_blank
  distinct := Notice.checks_distinct_iff style m

end EstateFiling
