import EstateFiling.Proofs.Form.Lookups
import Mathlib.Algebra.GroupWithZero.Nat
import Mathlib.Algebra.Order.BigOperators.Group.List
import Mathlib.Algebra.Order.Group.Nat

/-!
# Certificates of exhibits

An exhibit is certified as one to the affidavit of some people, and these people sign the
jurat of that affidavit.  The jurat leaves a blank for each of them who has no name.  The
certificate strings the names together as they are, and leaves a blank only where there is
nobody.

So a certificate names the people of the jurat exactly where all of them have a name
(`EstateModel.exhibits_name_deponents_iff`).  A name that is missing shows in the length of
the certificate: whatever stands between the names, there are as many characters of it for
as many names (`Counted`).
-/

namespace EstateFiling

/-! ## Names strung together -/

/-- What is put between texts does not depend on the texts, but on how many there are. -/
def Counted (join : List String → String) : Prop :=
  ∃ between : Nat → Nat, ∀ texts,
    (join texts).length = (texts.map String.length).sum + between texts.length

theorem Text.length_join_cons (separator first : String) (rest : List String) :
    (join separator (first :: rest)).length =
      ((first :: rest).map String.length).sum + rest.length * separator.length := by
  unfold join
  induction rest generalizing first with
  | nil => simp
  | cons second rest ih =>
    rw [String.intercalate_cons_of_ne_nil (List.cons_ne_nil _ _), String.length_append,
      String.length_append, ih second]
    simp only [List.map_cons, List.sum_cons, List.length_cons, Nat.add_mul, Nat.one_mul]
    omega

theorem Text.counted_join (separator : String) : Counted (join separator) := by
  refine ⟨fun count => (count - 1) * separator.length, fun texts => ?_⟩
  cases texts with
  | nil => simp [join]
  | cons first rest => exact length_join_cons separator first rest

namespace Filler

theorem joinList_concat (first last : String) (front : List String) :
    joinList (first :: (front ++ [last])) = Text.join ", " (first :: front) ++ " and " ++ last := by
  cases front with
  | nil => rfl
  | cons second front =>
    show Text.join ", " (first :: ((second :: front) ++ [last]).dropLast) ++ " and "
      ++ ((second :: front) ++ [last]).getLastD "" = _
    rw [List.dropLast_concat, List.getLastD_concat]

theorem counted_joinList : Counted joinList := by
  refine ⟨fun count => if count ≤ 1 then 0 else (count - 2) * 2 + 5, fun texts => ?_⟩
  cases texts with
  | nil => rfl
  | cons first rest =>
    rcases List.eq_nil_or_concat' rest with rfl | ⟨front, last, rfl⟩
    · simp [joinList]
    · -- The last comma is an "and".
      have comma : ", ".length = 2 := by decide
      have conjunction : " and ".length = 5 := by decide
      rw [joinList_concat, String.length_append, String.length_append, Text.length_join_cons, comma,
        conjunction]
      simp only [List.map_cons, List.map_append, List.map_nil, List.sum_cons, List.sum_append,
        List.sum_nil, List.length_cons, List.length_append, List.length_nil]
      split <;> omega

end Filler

/-- Where each text stays as it is or gets longer, what they are strung together to stays as it
is exactly if each of them does. -/
theorem Counted.map_eq_iff {join : List String → String} (h : Counted join) {α : Type}
    {f g : α → String} {xs : List α}
    (grows : ∀ x ∈ xs, f x = g x ∨ (f x).length < (g x).length) :
    join (xs.map f) = join (xs.map g) ↔ ∀ x ∈ xs, f x = g x := by
  refine ⟨fun same => ?_, fun each => congrArg join (List.map_congr_left each)⟩
  by_contra changed
  push Not at changed
  obtain ⟨x, hx, changed⟩ := changed
  obtain ⟨between, length⟩ := h
  have longer : (xs.map fun x => (f x).length).sum < (xs.map fun x => (g x).length).sum :=
    List.sum_lt_sum _ _
      (fun y hy => (grows y hy).elim (fun same => (congrArg String.length same).le) Nat.le_of_lt)
      ⟨x, hx, (grows x hx).resolve_left changed⟩
  have lengths := congrArg String.length same
  rw [length, length, List.length_map, List.length_map, Nat.add_right_cancel_iff, List.map_map,
    List.map_map] at lengths
  exact absurd lengths (Nat.ne_of_lt longer)

/-! ## Names of applicants -/

namespace Applicant

variable (a : Applicant)

theorem displayName_eq_printedName_iff : a.displayName = a.printedName ↔ a.displayName ≠ "" := by
  refine ⟨fun same unnamed => ?_, fun named => (printedName_of_named named).symm⟩
  rw [printedName_of_unnamed unnamed, unnamed] at same
  exact absurd same (by decide)

/-- A blank is longer than a name that is missing. -/
theorem displayName_grows :
    a.displayName = a.printedName ∨ a.displayName.length < a.printedName.length := by
  by_cases unnamed : a.displayName = ""
  · right
    rw [printedName_of_unnamed unnamed, unnamed]
    decide
  · exact Or.inl (a.displayName_eq_printedName_iff.mpr unnamed)

end Applicant

/-- The members of a group as a certificate names them: strung together as they are, one
blank when there is none. -/
def Deponents.certifiedNames (join : List String → String) (d : Deponents) : String :=
  if d.names = [] then Filler.dots 30 else join d.names

theorem Deponents.certifiedNames_eq_iff {join : List String → String} (h : Counted join)
    (single : ∀ text, join [text] = text) (d : Deponents) :
    d.certifiedNames join = join d.printedNames ↔ ∀ a ∈ d.members, a.displayName ≠ "" := by
  by_cases nobody : d.members = []
  · have blank : d.printedNames = [Filler.dots 30] := by
      unfold printedNames membersOrBlank
      rw [nobody]
      rfl
    rw [blank, single, certifiedNames, names, nobody]
    exact iff_of_true rfl (List.forall_mem_nil _)
  · rw [certifiedNames, if_neg (by simpa [names] using nobody), printedNames,
      membersOrBlank_of_ne_nil nobody]
    refine (h.map_eq_iff fun a _ => a.displayName_grows).trans ?_
    exact forall₂_congr fun a _ => a.displayName_eq_printedName_iff

/-! ## Jurats and certificates -/

/-- The people who sign a jurat: the names under the signing lines. -/
def Jurat.persons (j : Jurat) : List String :=
  j.deponents.filterMap (Text.after? (Filler.underline 40 ++ "\n"))

theorem Compose.after?_deponentLine (name : String) :
    Text.after? (Filler.underline 40 ++ "\n") (deponentLine name) =
      some (Filler.orDots name 30) := by
  rw [deponentLine, Text.after?_append]

theorem Deponents.persons_jurat (style : StyleProfile) (d : Deponents) :
    (d.jurat style).persons = d.printedNames := by
  unfold Jurat.persons
  rw [deponents_jurat, List.map_map, List.filterMap_map, printedNames, ← List.filterMap_eq_map]
  refine List.filterMap_congr fun a _ => ?_
  rw [Function.comp_apply, Function.comp_apply, Compose.after?_deponentLine, Function.comp_apply,
    Applicant.printedName]

theorem Compose.after?_signature (style : StyleProfile) (words signatory caption : String) :
    (signature style signatory caption).after? words = none := rfl

theorem Compose.after?_heading (style : StyleProfile) (words s : String) :
    (heading style s).after? words = Text.after? words s := by
  show Text.after? words ("" ++ s) = _
  rw [String.empty_append]

namespace Form

/-- The words in front of the people in the certificate of an exhibit. -/
def certificateWords (letter : String) : String :=
  "This is Exhibit " ++ letter ++ " referred to in the affidavit of "

/-- The words after the people in the certificate of an exhibit. -/
def certificateEnd : String := " sworn (or affirmed) before me on " ++ Filler.dots 20 ++ "."

theorem after?_pageBreak (words : String) : Block.pageBreak.after? words = none := rfl

theorem saidAfter_exhibitCertificate (style : StyleProfile) (letter people : String) :
    saidAfter (certificateWords letter) (exhibitCertificate style letter people) =
      [people ++ certificateEnd] := by
  have text : "This is Exhibit " ++ letter ++ " referred to in the affidavit of " ++ people
      ++ " sworn (or affirmed) before me on " ++ Filler.dots 20 ++ "." =
        certificateWords letter ++ (people ++ certificateEnd) := by
    unfold certificateWords certificateEnd
    simp only [String.append_assoc]
  rw [exhibitCertificate, text]
  simp only [saidAfter_cons, saidAfter_nil, after?_pageBreak, Compose.after?_paragraph,
    Compose.after?_signature, Text.after?_append, Option.toList_none, Option.toList_some,
    List.nil_append, List.append_nil]

end Form

/-- The certificates of an exhibit with a letter in a section are one, and it is to the
affidavit of some people. -/
def Section.Certifies (s : Section) (letter people : String) : Prop :=
  saidAfter (Form.certificateWords letter) s.blocks = [people ++ Form.certificateEnd]

theorem Section.Certifies.iff_eq {s : Section} {letter people : String}
    (h : s.Certifies letter people) (others : String) :
    s.Certifies letter others ↔ people = others := by
  unfold Certifies at h ⊢
  rw [h, List.singleton_inj, String.append_left_inj]

/-- A document has an affidavit and an exhibit that is certified as one to the affidavit of
the people in its jurat. -/
def DocumentContent.NamesDeponents (doc : DocumentContent) (join : List String → String)
    (affidavit exhibit letter : String) : Prop :=
  ∃ a e j, doc.section? affidavit = some a ∧ a.jurats = [j]
    ∧ doc.section? exhibit = some e ∧ e.Certifies letter (join j.persons)

/-- A group of deponents swears an affidavit and its exhibit is certified. -/
structure DocumentContent.Exhibits (doc : DocumentContent) (join : List String → String)
    (affidavit exhibit letter : String) (d : Deponents) : Prop where
  /-- The jurat has a name or a blank for each member. -/
  sworn : ∃ a j, doc.section? affidavit = some a ∧ a.jurats = [j] ∧ j.persons = d.printedNames
  /-- The certificate has the names of the members as they are. -/
  certified : ∃ e, doc.section? exhibit = some e ∧ e.Certifies letter (d.certifiedNames join)
  /-- It names the people of the jurat exactly where every member has a name. -/
  names_iff : doc.NamesDeponents join affidavit exhibit letter ↔
    ∀ a ∈ d.members, a.displayName ≠ ""

theorem DocumentContent.exhibits_of_sections {doc : DocumentContent}
    {join : List String → String} (counted : Counted join) (single : ∀ text, join [text] = text)
    {affidavit exhibit letter : String} {d : Deponents} {a e : Section} {j : Jurat}
    (sworn : doc.section? affidavit = some a) (jurats : a.jurats = [j])
    (persons : j.persons = d.printedNames) (found : doc.section? exhibit = some e)
    (certified : e.Certifies letter (d.certifiedNames join)) :
    doc.Exhibits join affidavit exhibit letter d where
  sworn := ⟨a, j, sworn, jurats, persons⟩
  certified := ⟨e, found, certified⟩
  names_iff := by
    rw [← d.certifiedNames_eq_iff counted single, ← certified.iff_eq, ← persons]
    refine ⟨?_, fun named => ⟨a, e, j, sworn, jurats, found, named⟩⟩
    rintro ⟨a', e', j', sworn', jurats', found', named⟩
    obtain rfl : a = a' := Option.some.inj (sworn.symm.trans sworn')
    obtain rfl : e = e' := Option.some.inj (found.symm.trans found')
    obtain rfl : j = j' := List.singleton_inj.mp (jurats.symm.trans jurats')
    exact named

/-! ## Two forms -/

section Documents

variable (style : StyleProfile) (m : EstateModel)

/-- Each section is found by its identifier. -/
theorem EstateModel.section?_of_mem (kind : DocumentKind) {s : Section}
    (hs : s ∈ (m.document style kind).sections) :
    (m.document style kind).section? s.id = some s :=
  (keyedApart_of_nodup (m.nodup_sectionIds style kind)).find?_eq_of_mem hs

namespace ShortAffidavit

theorem certifies_exhibit (number : Nat) (d : Deponents) :
    (exhibit style m number d).Certifies "A" (d.certifiedNames Filler.joinList) := by
  have named : Form.blankOr 30 d.names = d.certifiedNames Filler.joinList := by
    unfold Form.blankOr Deponents.certifiedNames
    simp only [List.isEmpty_iff]
  have attached : Text.after? (Form.certificateWords "A") (attachment m) = none := by
    unfold attachment
    split <;> exact Text.after?_of_apart (by decide)
  unfold Section.Certifies exhibit
  rw [saidAfter_append, Form.saidAfter_exhibitCertificate, saidAfter_cons,
    Compose.after?_paragraph, attached, named]
  rfl

/-- An affidavit and its exhibit go with each group of deponents. -/
theorem exhibits_document {i : Nat} {d : Deponents} (hd : (Deponents.groups m)[i]? = some d) :
    (m.document style .shortAffidavit).Exhibits Filler.joinList
      (Form.numberedId "affidavit" (i + 1)) (Form.numberedId "exhibit_a" (i + 1)) "A" d := by
  have mem : ∀ s ∈ sworn style m i d, s ∈ (m.document style .shortAffidavit).sections := by
    intro s hs
    refine List.mem_flatten.mpr ⟨sworn style m i d, ?_, hs⟩
    refine List.mem_iff_getElem?.mpr ⟨i, ?_⟩
    rw [List.getElem?_mapIdx, hd, Option.map_some]
  have affidavit := m.section?_of_mem style .shortAffidavit (mem _ List.mem_cons_self)
  have exhibit := m.section?_of_mem style .shortAffidavit
    (mem _ (List.mem_cons_of_mem _ (List.mem_singleton_self _)))
  exact DocumentContent.exhibits_of_sections Filler.counted_joinList (fun _ => rfl) affidavit
    (jurats_affidavit style m (i + 1) d) (d.persons_jurat style) exhibit
    (certifies_exhibit style m (i + 1) d)

/-- The exhibits are numbered like the affidavits. -/
theorem isSome_section?_exhibit_iff (k : Nat) :
    ((m.document style .shortAffidavit).section? (Form.numberedId "exhibit_a" k)).isSome = true ↔
      1 ≤ k ∧ k ≤ m.affidavitCount := by
  have found : ((document style m).section? (Form.numberedId "exhibit_a" k)).isSome = true ↔
      Form.numberedId "exhibit_a" k ∈ (document style m).sections.map Section.id := by
    simp [DocumentContent.section?, List.find?_isSome]
  refine found.trans ?_
  rw [map_id_sections, List.mem_flatMap]
  refine ⟨?_, fun ⟨positive, le⟩ => ⟨k - 1, List.mem_range.mpr (by omega), ?_⟩⟩
  · rintro ⟨i, hi, id⟩
    rcases List.mem_pair.mp id with affidavit | exhibit
    · exact absurd affidavit.symm (affidavitId_ne_exhibitId _ _)
    · obtain rfl : k = i + 1 := Form.numberedId_injective "exhibit_a" exhibit
      exact ⟨Nat.succ_pos i, List.mem_range.mp hi⟩
  · rw [Nat.sub_add_cancel positive]
    exact List.mem_cons_of_mem _ (List.mem_singleton_self _)

end ShortAffidavit

namespace AssetsAffidavit

theorem jurats_affidavit :
    (affidavit style m).jurats = [(Deponents.together m).jurat style] := by
  simp [Section.jurats, affidavit]

/-- The certificates are worded alike. -/
theorem saidAfter_certificate (letter : String) :
    saidAfter (Form.certificateWords letter)
        (Form.exhibitCertificate style letter (exhibitNames m)) =
      [(Deponents.together m).certifiedNames (Text.join ", ") ++ Form.certificateEnd] := by
  have named : exhibitNames m = (Deponents.together m).certifiedNames (Text.join ", ") := by
    unfold exhibitNames Deponents.certifiedNames
    simp only [List.isEmpty_iff]
  rw [Form.saidAfter_exhibitCertificate, named]

theorem certifies_exhibitA :
    (exhibitA style m).Certifies "A" ((Deponents.together m).certifiedNames (Text.join ", ")) := by
  unfold Section.Certifies exhibitA
  rw [saidAfter_append, saidAfter_certificate]
  simp (disch := decide) only [saidAfter_cons, saidAfter_nil, securedTable, valueTable,
    Compose.after?_heading, Compose.after?_table, Text.after?_of_apart, Option.toList_none,
    List.append_nil]

theorem certifies_exhibitB :
    (exhibitB style m).Certifies "B" ((Deponents.together m).certifiedNames (Text.join ", ")) := by
  unfold Section.Certifies exhibitB
  rw [saidAfter_append, saidAfter_certificate]
  simp (disch := decide) only [saidAfter_cons, saidAfter_nil, valueTable, Compose.after?_heading,
    Compose.after?_table, Text.after?_of_apart, Option.toList_none, List.append_nil]

theorem exhibits_of_mem {letter : String} {e : Section}
    (mem : e ∈ (document style m).sections)
    (certified : e.Certifies letter ((Deponents.together m).certifiedNames (Text.join ", "))) :
    (m.document style .assetsAffidavit).Exhibits (Text.join ", ") "affidavit" e.id letter
      (Deponents.together m) :=
  DocumentContent.exhibits_of_sections (Text.counted_join ", ")
    (fun _ => String.intercalate_singleton) rfl (jurats_affidavit style m)
    ((Deponents.together m).persons_jurat style)
    (m.section?_of_mem style .assetsAffidavit mem) certified

theorem exhibits_exhibitA :
    (m.document style .assetsAffidavit).Exhibits (Text.join ", ") "affidavit" "exhibit_a" "A"
      (Deponents.together m) :=
  exhibits_of_mem style m (e := exhibitA style m) (List.mem_cons_of_mem _ List.mem_cons_self)
    (certifies_exhibitA style m)

theorem exhibits_exhibitB (outside : m.assets.hasOutsideProperty = true) :
    (m.document style .assetsAffidavit).Exhibits (Text.join ", ") "affidavit" "exhibit_b" "B"
      (Deponents.together m) := by
  have mem : exhibitB style m ∈ (document style m).sections := by
    rw [document, outside]
    exact List.mem_append_right _ (List.mem_singleton_self _)
  exact exhibits_of_mem style m mem (certifies_exhibitB style m)

theorem isSome_section?_exhibitB_iff :
    ((m.document style .assetsAffidavit).section? "exhibit_b").isSome = true ↔
      m.assets.hasOutsideProperty = true := by
  refine ⟨fun found => ?_, fun outside => ?_⟩
  · by_contra inside
    have sections : (document style m).sections = [affidavit style m, exhibitA style m] := by
      rw [document, eq_false_of_ne_true inside]
      rfl
    rw [EstateModel.document, DocumentContent.section?, sections] at found
    cases found
  · obtain ⟨e, found, -⟩ := (exhibits_exhibitB style m outside).certified
    rw [found]
    rfl

end AssetsAffidavit

end Documents

namespace EstateModel

/-- The exhibits to the affidavits under a will, one to each, and those to the affidavit of
assets.  A certificate names the people of the jurat, blanks and all, exactly where each of
the deponents has a name. -/
theorem exhibits_name_deponents_iff (m : EstateModel) (style : StyleProfile) :
    (∀ k, ((m.document style .shortAffidavit).section?
        (Form.numberedId "exhibit_a" k)).isSome = true ↔ 1 ≤ k ∧ k ≤ m.affidavitCount)
    ∧ (∀ i d, (Deponents.groups m)[i]? = some d →
      (m.document style .shortAffidavit).Exhibits Filler.joinList
        (Form.numberedId "affidavit" (i + 1)) (Form.numberedId "exhibit_a" (i + 1)) "A" d)
    ∧ (m.document style .assetsAffidavit).Exhibits (Text.join ", ") "affidavit" "exhibit_a" "A"
      (Deponents.together m)
    ∧ (((m.document style .assetsAffidavit).section? "exhibit_b").isSome = true ↔
      m.assets.hasOutsideProperty = true)
    ∧ (m.assets.hasOutsideProperty = true →
      (m.document style .assetsAffidavit).Exhibits (Text.join ", ") "affidavit" "exhibit_b" "B"
        (Deponents.together m)) :=
  ⟨ShortAffidavit.isSome_section?_exhibit_iff style m,
    fun _ _ => ShortAffidavit.exhibits_document style m,
    AssetsAffidavit.exhibits_exhibitA style m, AssetsAffidavit.isSome_section?_exhibitB_iff style m,
    AssetsAffidavit.exhibits_exhibitB style m⟩

/-- One applicant, who has no name. -/
def onlyUnnamed : EstateModel where
  applicants := [{}]

theorem onlyUnnamed_not_named :
    ¬(onlyUnnamed.document .standard .shortAffidavit).NamesDeponents Filler.joinList
      "affidavit.1" "exhibit_a.1" "A"
    ∧ ¬(onlyUnnamed.document .standard .assetsAffidavit).NamesDeponents (Text.join ", ")
      "affidavit" "exhibit_a" "A" := by
  have unnamed : ¬∀ a ∈ [({} : Applicant)], a.displayName ≠ "" := by decide
  have own : (Deponents.groups onlyUnnamed)[0]? = some ⟨1, [{}]⟩ := rfl
  exact ⟨mt (ShortAffidavit.exhibits_document .standard onlyUnnamed own).names_iff.mp unnamed,
    mt (AssetsAffidavit.exhibits_exhibitA .standard onlyUnnamed).names_iff.mp unnamed⟩

end EstateModel

end EstateFiling
