import EstateFiling.Form.Document
import EstateFiling.Proofs.Document.Lookups
import EstateFiling.Proofs.Text.Digits
import Mathlib.Data.List.Basic

/-!
# Enclosures

The cover letter lists what it encloses in a table of texts.  `Enclosure` is what such a
text stands for, and `EstateModel.CallsFor` says which enclosures an estate calls for.

*Texts.*  An enclosure can be read back from its text (`Enclosure.read_text`), so
different enclosures have different texts.

*The letter.*  Its table lists a text exactly if the estate calls for the enclosure
(`EstateModel.encloses_iff`).  What other forms say of an enclosure is compared with this
lemma, and no proof looks at the texts again.
-/

namespace EstateFiling

/-- Something that the cover letter can enclose. -/
inductive Enclosure where
  /-- The submission. -/
  | submission
  /-- The affidavit of the applicant, with the number of its form. -/
  | affidavit (form : String)
  /-- Several affidavits of applicants, with the number of their form. -/
  | affidavits (count : Nat) (form : String)
  /-- The affidavit of delivery. -/
  | deliveryAffidavit
  /-- The affidavit of assets. -/
  | assetsAffidavit
  /-- The will itself. -/
  | originalWill
  /-- A copy of the will. -/
  | willCopy
  /-- The certificate of the wills search. -/
  | willsSearch
  /-- A copy of the grant made elsewhere. -/
  | foreignGrant
  /-- The fee for certified copies of the grant. -/
  | fee (copies : Nat)
deriving DecidableEq, Repr

/-! ## Texts of enclosures -/

namespace Enclosure

/-- How the cover letter writes an enclosure. -/
def text : Enclosure → String
  | .submission => "Submission for estate grant (Form P2)"
  | .affidavit form => "Affidavit of applicant (Form " ++ form ++ ")"
  | .affidavits count form => toString count ++ " affidavits of applicant (Form " ++ form ++ ")"
  | .deliveryAffidavit => "Affidavit of delivery (Form P9)"
  | .assetsAffidavit => "Affidavit of assets and liabilities (Form P10)"
  | .originalWill => "Originally signed will and any codicils"
  | .willCopy => "Copy of the will and any codicils"
  | .willsSearch => "Certificate of wills search"
  | .foreignGrant => "Certified copy of the foreign grant"
  | .fee copies => "Fee for " ++ toString copies ++ " certified copies of the grant"

theorem text_affidavit (form : String) :
    (affidavit form).text = "Affidavit of applicant (Form " ++ form ++ ")" := rfl

theorem text_affidavits (count : Nat) (form : String) :
    (affidavits count form).text =
      toString count ++ " affidavits of applicant (Form " ++ form ++ ")" := rfl

theorem text_fee (copies : Nat) :
    (fee copies).text = "Fee for " ++ toString copies ++ " certified copies of the grant" := rfl

/-- The enclosure with a text.  A number in front tells several affidavits, and three
characters tell the others apart. -/
def read (s : String) : Enclosure :=
  let cs := s.toList
  if cs.head?.any Char.isDigit then
    .affidavits (Text.leadingNat cs)
      (String.ofList ((cs.dropWhile Char.isDigit).drop 31).dropLast)
  else
    match cs[0]?, cs[7]?, cs[14]? with
    | some 'S', _, _ => .submission
    | some 'A', _, some 'p' => .affidavit (String.ofList (cs.drop 29).dropLast)
    | some 'A', _, some 'e' => .deliveryAffidavit
    | some 'A', _, _ => .assetsAffidavit
    | some 'O', _, _ => .originalWill
    | some 'C', some 'c', _ => .willsSearch
    | some 'C', some 'e', _ => .foreignGrant
    | some 'C', _, _ => .willCopy
    | _, _, _ => .fee (Text.leadingNat (cs.drop 8))

theorem read_affidavit (form : String) : read (affidavit form).text = affidavit form := by
  have chars : (affidavit form).text.toList =
      "Affidavit of applicant (Form ".toList ++ (form.toList ++ [')']) := by
    rw [text_affidavit, String.toList_append, String.toList_append, List.append_assoc]
    rfl
  have number : ((affidavit form).text.toList.drop 29).dropLast = form.toList := by
    rw [chars, List.drop_left' (by decide), List.dropLast_concat]
  unfold read
  dsimp only
  rw [number, String.ofList_toList, chars]
  rfl

theorem read_affidavits (count : Nat) (form : String) :
    read (affidavits count form).text = affidavits count form := by
  have chars : (affidavits count form).text.toList =
      (toString count).toList
        ++ ' ' :: ("affidavits of applicant (Form ".toList ++ (form.toList ++ [')'])) := by
    rw [text_affidavits, String.toList_append, String.toList_append, String.toList_append,
      List.append_assoc, List.append_assoc]
    rfl
  have digit : (affidavits count form).text.toList.head?.any Char.isDigit = true := by
    rw [chars]
    exact Text.any_isDigit_head?_toString count _
  have number :
      (((affidavits count form).text.toList.dropWhile Char.isDigit).drop 31).dropLast =
        form.toList := by
    rw [chars, Text.dropWhile_isDigit_append count (by decide), List.drop_succ_cons,
      List.drop_left' (by decide), List.dropLast_concat]
  unfold read
  dsimp only
  rw [if_pos digit, number, String.ofList_toList, chars,
    Text.leadingNat_append count (by decide)]

theorem read_fee (copies : Nat) : read (fee copies).text = fee copies := by
  have chars : (fee copies).text.toList =
      "Fee for ".toList
        ++ ((toString copies).toList ++ ' ' :: "certified copies of the grant".toList) := by
    rw [text_fee, String.toList_append, String.toList_append, List.append_assoc]
    rfl
  have number : Text.leadingNat ((fee copies).text.toList.drop 8) = copies := by
    rw [chars, List.drop_left' (by decide), Text.leadingNat_append copies (by decide)]
  unfold read
  dsimp only
  rw [number, chars]
  rfl

/-- An enclosure can be read back from its text. -/
theorem read_text (e : Enclosure) : read e.text = e := by
  cases e with
  | affidavit form => exact read_affidavit form
  | affidavits count form => exact read_affidavits count form
  | fee copies => exact read_fee copies
  | submission => rfl
  | deliveryAffidavit => rfl
  | assetsAffidavit => rfl
  | originalWill => rfl
  | willCopy => rfl
  | willsSearch => rfl
  | foreignGrant => rfl

theorem text_injective : Function.Injective text :=
  Function.LeftInverse.injective read_text

end Enclosure

/-! ## What an estate calls for -/

/-- The enclosures that the cover letter of an estate lists. -/
def EstateModel.CallsFor (m : EstateModel) : Enclosure → Prop
  | .submission => True
  | .affidavit form =>
      (Deponents.groups m).length ≤ 1 ∧ form = Form.applicantAffidavit m.grantType
  | .affidavits count form =>
      1 < (Deponents.groups m).length ∧ count = (Deponents.groups m).length
        ∧ form = Form.applicantAffidavit m.grantType
  | .deliveryAffidavit => m.deliveries ≠ [] ∨ m.filing.deliveryWaived = false
  | .assetsAffidavit => m.filing.assetsAffidavitSubmitted = true
  | .originalWill => m.willExists = true ∧ m.will.any Will.originalAvailable = true
  | .willCopy => m.willExists = true ∧ m.will.any Will.originalAvailable = false
  | .willsSearch => m.filing.willsSearchCertificate = true
  | .foreignGrant => m.foreignGrant.isSome = true
  | .fee copies => 0 < m.filing.certifiedCopies ∧ copies = m.filing.certifiedCopies.toNat

namespace CoverLetter

variable (m : EstateModel)

/-- The affidavits of the applicants. -/
def affidavitEnclosure : Enclosure :=
  let count := (Deponents.groups m).length
  let form := Form.applicantAffidavit m.grantType
  if 1 < count then .affidavits count form else .affidavit form

/-- The will. -/
def willEnclosure : Enclosure :=
  if m.will.any Will.originalAvailable then .originalWill else .willCopy

/-- The enclosures of an estate, in the order of filing. -/
def enclosed : List Enclosure :=
  [.submission, affidavitEnclosure m]
    ++ (if !m.deliveries.isEmpty || !m.filing.deliveryWaived then [.deliveryAffidavit] else [])
    ++ (if m.filing.assetsAffidavitSubmitted then [.assetsAffidavit] else [])
    ++ (if m.willExists then [willEnclosure m] else [])
    ++ (if m.filing.willsSearchCertificate then [.willsSearch] else [])
    ++ (if m.foreignGrant.isSome then [.foreignGrant] else [])
    ++ (if 0 < m.filing.certifiedCopies then [.fee m.filing.certifiedCopies.toNat] else [])

/-- The letter writes the enclosures of the estate. -/
theorem map_text_enclosed : (enclosed m).map Enclosure.text = enclosures m := by
  have affidavits : (affidavitEnclosure m).text = affidavitsEnclosed m := apply_ite ..
  have will : (willEnclosure m).text = willEnclosed m := apply_ite ..
  simp only [enclosed, enclosures, List.map_append, List.map_cons, List.map_nil, affidavits, will,
    apply_ite (List.map Enclosure.text)]
  rfl

theorem eq_affidavitEnclosure_iff (e : Enclosure) :
    e = affidavitEnclosure m ↔
      ((Deponents.groups m).length ≤ 1 ∧ e = .affidavit (Form.applicantAffidavit m.grantType))
      ∨ (1 < (Deponents.groups m).length
        ∧ e = .affidavits (Deponents.groups m).length (Form.applicantAffidavit m.grantType)) := by
  unfold affidavitEnclosure
  dsimp only
  split
  · rename_i several
    simp [several, Nat.not_le_of_lt several]
  · rename_i single
    simp [single, Nat.le_of_not_lt single]

theorem eq_willEnclosure_iff (e : Enclosure) :
    e = willEnclosure m ↔
      (m.will.any Will.originalAvailable = true ∧ e = .originalWill)
      ∨ (m.will.any Will.originalAvailable = false ∧ e = .willCopy) := by
  unfold willEnclosure
  cases m.will.any Will.originalAvailable <;> simp

theorem mem_enclosed_iff (e : Enclosure) : e ∈ enclosed m ↔ m.CallsFor e := by
  simp only [enclosed, List.mem_append, List.mem_ite_nil_right, List.mem_cons, List.not_mem_nil,
    or_false, Bool.or_eq_true, Bool.not_eq_true', List.isEmpty_eq_false_iff,
    eq_affidavitEnclosure_iff, eq_willEnclosure_iff]
  cases e <;> simp [EstateModel.CallsFor]

theorem text_mem_enclosures_iff (e : Enclosure) : e.text ∈ enclosures m ↔ m.CallsFor e := by
  rw [← map_text_enclosed, List.mem_map_of_injective Enclosure.text_injective, mem_enclosed_iff]

/-! ## The table -/

/-- The letter's only table. -/
def enclosureTable (style : StyleProfile) (m : EstateModel) : Table where
  id := "enclosures"
  header := ["", "Enclosure"]
  rows := (enclosures m).mapIdx enclosureRow
  size := style.smallSize

theorem tables_document (style : StyleProfile) :
    (document style m).tables = [enclosureTable style m] := by
  have closing : (Letter.closing style m).tables = [] :=
    Compose.tablesOf_signatures style m.applicantNames "Applicant"
  rw [DocumentContent.tables_eq]
  unfold document
  simp only [List.flatMap_cons, List.flatMap_nil, closing]
  rfl

/-- The second column of the table holds the enclosures. -/
theorem column_enclosureTable (style : StyleProfile) :
    (enclosureTable style m).column 1 = enclosures m := by
  have plain : (enclosureTable style m).bodyRows = (enclosures m).mapIdx enclosureRow := by
    refine List.filter_eq_self.mpr fun row hrow => ?_
    obtain ⟨i, _, rfl⟩ := List.mem_mapIdx.mp hrow
    rfl
  unfold Table.column
  rw [plain, List.mapIdx_eq_zipIdx_map, List.filterMap_map]
  simp [Function.comp_def, enclosureRow]

end CoverLetter

/-- The cover letter of an estate lists a text among its enclosures. -/
def EstateModel.Encloses (m : EstateModel) (style : StyleProfile) (text : String) : Prop :=
  text ∈ (m.document style .registryCoverLetter).tables.flatMap (fun t => t.column 1)

/-- The letter lists the enclosures that the estate calls for. -/
theorem EstateModel.encloses_iff (style : StyleProfile) (m : EstateModel) (e : Enclosure) :
    m.Encloses style e.text ↔ m.CallsFor e := by
  show e.text ∈ (CoverLetter.document style m).tables.flatMap (fun t => t.column 1) ↔ _
  rw [CoverLetter.tables_document, List.flatMap_singleton, CoverLetter.column_enclosureTable,
    CoverLetter.text_mem_enclosures_iff]

end EstateFiling
