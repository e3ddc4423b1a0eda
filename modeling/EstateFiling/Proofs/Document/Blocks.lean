import EstateFiling.Proofs.Document.Choice
import EstateFiling.Proofs.List.Positions

/-!
# Blocks without boxes

The boxes of a document are read section by section
(`DocumentContent.checkboxGroups_eq`).  Of the constructors of blocks only the
choices and the independent boxes hold a group; the lemmas here say so for each
constructor and for each list of blocks that is composed as a whole, so that
`simp` strips a section down to its passages.
-/

namespace EstateFiling

/-! ## Boxes of lists of blocks -/

/-- The groups of check boxes among blocks. -/
def groupsOf (bs : List Block) : List CheckboxGroup := bs.filterMap Block.group?

@[simp] theorem groupsOf_nil : groupsOf [] = [] := rfl

@[simp] theorem groupsOf_cons (b : Block) (bs : List Block) :
    groupsOf (b :: bs) = b.group?.toList ++ groupsOf bs := by
  cases h : b.group? with
  | none => simp [groupsOf, h]
  | some g => simp [groupsOf, h]

@[simp] theorem groupsOf_append (bs cs : List Block) :
    groupsOf (bs ++ cs) = groupsOf bs ++ groupsOf cs := List.filterMap_append

@[simp] theorem groupsOf_ite {p : Prop} [Decidable p] (bs cs : List Block) :
    groupsOf (if p then bs else cs) = if p then groupsOf bs else groupsOf cs :=
  apply_ite ..

theorem groupsOf_flatten (bss : List (List Block)) :
    groupsOf bss.flatten = bss.flatMap groupsOf := by
  unfold groupsOf
  rw [List.filterMap_flatten, List.flatMap_def]

/-- Blocks each of which is a group. -/
theorem groupsOf_mapIdx {α : Type} {f : Nat → α → Block} {g : Nat → α → CheckboxGroup}
    (h : ∀ i a, (f i a).group? = some (g i a)) (xs : List α) :
    groupsOf (xs.mapIdx f) = xs.mapIdx g := filterMap_mapIdx h xs

/-- The groups of check boxes of a section. -/
def Section.checkboxGroups (s : Section) : List CheckboxGroup := groupsOf s.blocks

theorem DocumentContent.checkboxGroups_eq (d : DocumentContent) :
    d.checkboxGroups = d.sections.flatMap Section.checkboxGroups := by
  unfold DocumentContent.checkboxGroups DocumentContent.blocks
  exact List.filterMap_flatMap

namespace Compose

variable (style : StyleProfile)

/-! ## Single blocks -/

@[simp] theorem group?_runs (number : Option String) (rs : List Run) (o : ParagraphOptions) :
    (runs style number rs o).group? = none := rfl

@[simp] theorem group?_title (s : String) : (title style s).group? = none := rfl

@[simp] theorem group?_heading (s : String) : (heading style s).group? = none := rfl

@[simp] theorem group?_paragraph (s : String) (o : ParagraphOptions) :
    (paragraph style s o).group? = none := rfl

@[simp] theorem group?_text (s : String) : (text style s).group? = none := rfl

@[simp] theorem group?_small (s : String) (o : ParagraphOptions) :
    (small style s o).group? = none := rfl

@[simp] theorem group?_numberedAt (number s : String) (indent : UInt16) :
    (numberedAt style number s indent).group? = none := rfl

@[simp] theorem group?_numbered (number s : String) :
    (numbered style number s).group? = none := rfl

@[simp] theorem group?_table (id : String) (header : List String) (rows : List TableRow) :
    (table style id header rows).group? = none := rfl

@[simp] theorem group?_signature (signatory caption : String) :
    (signature style signatory caption).group? = none := rfl

@[simp] theorem group?_dateLine (label : String) (date : Option Date) :
    (dateLine style label date).group? = none := rfl

@[simp] theorem group?_jurat (place : String) (date : Option Date) (deponents : List String) :
    (jurat style place date deponents).group? = none := rfl

@[simp] theorem group?_pageBreak : Block.pageBreak.group? = none := rfl

/-- The boxes that are independent of each other. -/
def checkboxGroup (id : String) (caption : Option String)
    (options : List (String × String × Bool)) (indent : UInt16) : CheckboxGroup where
  id := id
  caption := caption
  options := options.map fun (id, label, checked) => option id label checked
  indent := style.indent indent
  size := style.bodySize

@[simp] theorem group?_checkboxes (id : String) (caption : Option String)
    (options : List (String × String × Bool)) (indent : UInt16) :
    (checkboxes style id caption options indent).group? =
      some (checkboxGroup style id caption options indent) := rfl

@[simp] theorem group?_choice (id : String) (caption : Option String)
    (selection : ClauseSelection) (options : List (String × String)) :
    (choice style id caption selection options).group? =
      some (choiceGroup style id caption selection options) := by
  rw [choice_eq]
  rfl

@[simp] theorem group?_passage {Facts : Type} (t : ClauseTable Facts) (facts : Facts)
    (options : List (String × String)) (caption : Option String) :
    (passage style t facts options caption).group? =
      some (passageGroup style t facts options caption) :=
  group?_choice ..

/-! ## Lists of blocks -/

section Reading

variable {β : Type} {read : Block → Option β}

/-- What is not read off a paragraph is not read off an enumeration. -/
theorem filterMap_enumeration (h : ∀ p, read (.paragraph p) = none) (entries : List String)
    (indent : UInt16) : (enumeration style entries indent).filterMap read = [] :=
  filterMap_mapIdx_eq_nil (fun _ _ => h _) entries

theorem filterMap_enumerationOrNone (h : ∀ p, read (.paragraph p) = none)
    (entries : List String) : (enumerationOrNone style entries).filterMap read = [] := by
  unfold enumerationOrNone
  split
  · exact List.filterMap_cons_none (h _)
  · exact filterMap_enumeration style h entries 1

theorem filterMap_signatures (h : ∀ s, read (.signature s) = none) (names : List String)
    (caption : String) : (signatures style names caption).filterMap read = [] := by
  refine List.filterMap_eq_nil_iff.mpr fun b hb => ?_
  obtain ⟨name, _, rfl⟩ := List.mem_map.mp hb
  exact h _

end Reading

@[simp] theorem groupsOf_enumeration (entries : List String) (indent : UInt16) :
    groupsOf (enumeration style entries indent) = [] :=
  filterMap_enumeration style (fun _ => rfl) entries indent

@[simp] theorem groupsOf_enumerationOrNone (entries : List String) :
    groupsOf (enumerationOrNone style entries) = [] :=
  filterMap_enumerationOrNone style (fun _ => rfl) entries

@[simp] theorem groupsOf_signatures (names : List String) (caption : String) :
    groupsOf (signatures style names caption) = [] :=
  filterMap_signatures style (fun _ => rfl) names caption

end Compose

end EstateFiling
