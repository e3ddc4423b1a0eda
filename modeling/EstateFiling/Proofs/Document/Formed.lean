import EstateFiling.Proofs.Document.Blocks
import EstateFiling.Proofs.Document.Filled

/-!
# Well-formed documents

The type of documents admits tables with ragged rows, groups without boxes, boxes whose print
is not what they are, and places to sign for nobody.  A document is *well formed* when it has
none of these (`DocumentContent.WellFormed`).

The blocks of a form are composed, and each constructor of blocks makes a well-formed one:
always, or from rows as long as the heading, or from at least one option.  `Block.Formed` says
so of a block together with a condition on the texts of paragraphs, so that one walk over a
form tells both that its blocks are well formed and which of its texts have to meet the
condition.
-/

namespace EstateFiling

/-! ## Well-formed parts -/

/-- The text of a paragraph without its number. -/
def Paragraph.body (p : Paragraph) : String := String.join (p.runs.map Run.text)

/-- Each row has a cell for each heading. -/
def Table.Rectangular (t : Table) : Prop := ∀ row ∈ t.rows, row.cells.length = t.header.length

/-- There is a box, and each box is printed as it is. -/
def CheckboxGroup.Drawn (g : CheckboxGroup) : Prop :=
  g.options ≠ [] ∧
    ∀ o ∈ g.options, o.glyph = if o.checked then Filler.checkedBox else Filler.uncheckedBox

/-- There is a deponent, and each has a line to sign on with something below it. -/
def Jurat.NamesDeponents (j : Jurat) : Prop :=
  j.deponents ≠ [] ∧
    ∀ line ∈ j.deponents, ∃ name, Text.Filled name ∧ line = Filler.underline 40 ++ "\n" ++ name

/-- A document is well formed. -/
structure DocumentContent.WellFormed (d : DocumentContent) : Prop where
  /-- Each row of a table has a cell for each heading. -/
  rectangular : ∀ t ∈ d.tables, t.Rectangular
  /-- The column below a heading has the cell of each row that is not a total. -/
  columns : ∀ t ∈ d.tables, ∀ i < t.header.length,
    (t.column i).map some = t.bodyRows.map fun row => row.cells[i]?
  /-- Each group has boxes, printed as they are. -/
  drawn : ∀ g ∈ d.checkboxGroups, g.Drawn
  /-- Each jurat names a deponent. -/
  sworn : ∀ j, .jurat j ∈ d.blocks → j.NamesDeponents
  /-- Each place to sign is for someone. -/
  signed : ∀ s, .signature s ∈ d.blocks → Text.Filled s.signatory

/-- In a rectangular table a column has one entry for each row that is not a total. -/
theorem Table.Rectangular.map_column {t : Table} (h : t.Rectangular) {i : Nat}
    (hi : i < t.header.length) :
    (t.column i).map some = t.bodyRows.map fun row => row.cells[i]? := by
  have cell : ∀ row ∈ t.bodyRows, row.cells[i]? = some (row.cells.getD i "") := by
    intro row hrow
    have long : i < row.cells.length := by rwa [h row (List.mem_of_mem_filter hrow)]
    rw [List.getD_eq_getElem?_getD, List.getElem?_eq_getElem long, Option.getD_some]
  rw [column, List.filterMap_congr cell, List.map_congr_left cell, List.filterMap_eq_map',
    List.map_map]
  rfl

/-! ## Blocks -/

/-- A condition that every filled text meets. -/
def AcceptsFilled (accept : String → Prop) : Prop := ∀ s, Text.Filled s → accept s

namespace AcceptsFilled

variable {accept : String → Prop} (h : AcceptsFilled accept)

include h

theorem text {s : String} (hs : Text.Filled s) : accept s := h s hs

theorem append {s : String} (hs : Text.Filled s) (t : String) : accept (s ++ t) :=
  h _ (hs.append t)

end AcceptsFilled

/-- A block is well formed and, if it is a paragraph, its text meets a condition. -/
def Block.Formed (accept : String → Prop) : Block → Prop
  | .paragraph p => accept p.body
  | .table t => t.Rectangular
  | .checkboxes g => g.Drawn
  | .signature s => Text.Filled s.signatory
  | .jurat j => j.NamesDeponents
  | .pageBreak => True

/-- All blocks are well formed, and the texts of paragraphs meet a condition. -/
def AllFormed (accept : String → Prop) (bs : List Block) : Prop := ∀ b ∈ bs, b.Formed accept

section Lists

variable {accept : String → Prop}

@[simp] theorem allFormed_nil : AllFormed accept [] := fun _ h => nomatch h

@[simp] theorem allFormed_cons {b : Block} {bs : List Block} :
    AllFormed accept (b :: bs) ↔ b.Formed accept ∧ AllFormed accept bs := List.forall_mem_cons

@[simp] theorem allFormed_append {bs cs : List Block} :
    AllFormed accept (bs ++ cs) ↔ AllFormed accept bs ∧ AllFormed accept cs :=
  List.forall_mem_append

theorem allFormed_flatMap {α : Type} {f : α → List Block} {xs : List α} :
    AllFormed accept (xs.flatMap f) ↔ ∀ x ∈ xs, AllFormed accept (f x) := by
  unfold AllFormed
  simp only [List.mem_flatMap]
  exact ⟨fun h x hx b hb => h b ⟨x, hx, hb⟩, fun h b ⟨x, hx, hb⟩ => h x hx b hb⟩

@[simp] theorem allFormed_ite {p : Prop} [Decidable p] {bs cs : List Block} :
    AllFormed accept (if p then bs else cs) ↔
      (p → AllFormed accept bs) ∧ (¬ p → AllFormed accept cs) := by
  split <;> simp [*]

theorem allFormed_mapIdx {α : Type} {f : Nat → α → Block} (h : ∀ i a, (f i a).Formed accept)
    (xs : List α) : AllFormed accept (xs.mapIdx f) := by
  intro b hb
  obtain ⟨i, _, rfl⟩ := List.mem_mapIdx.mp hb
  exact h i _

theorem allFormed_flatten_mapIdx_iff {α : Type} {f : Nat → α → List Block} {p : α → Prop}
    (h : ∀ i a, AllFormed accept (f i a) ↔ p a) {xs : List α} :
    AllFormed accept (xs.mapIdx f).flatten ↔ ∀ a ∈ xs, p a := by
  induction xs generalizing f with
  | nil => simp
  | cons x xs ih => rw [List.mapIdx_cons, List.flatten_cons, allFormed_append,
      List.forall_mem_cons, h, ih fun i a => h (i + 1) a]

theorem allFormed_flatten_mapIdx {α : Type} {f : Nat → α → List Block}
    (h : ∀ i a, AllFormed accept (f i a)) (xs : List α) :
    AllFormed accept (xs.mapIdx f).flatten :=
  (allFormed_flatten_mapIdx_iff (p := fun _ => True) fun i a => iff_true_intro (h i a)).mpr
    fun _ _ => trivial

end Lists

namespace Compose

variable {accept : String → Prop} (style : StyleProfile)

/-! ### Paragraphs -/

theorem formed_run (number : Option String) (r : Run) (o : ParagraphOptions) :
    (runs style number [r] o).Formed accept ↔ accept r.text := by
  show accept ("" ++ r.text) ↔ accept r.text
  rw [String.empty_append]

@[simp] theorem formed_title (s : String) : (title style s).Formed accept ↔ accept s :=
  formed_run style ..

@[simp] theorem formed_heading (s : String) : (heading style s).Formed accept ↔ accept s :=
  formed_run style ..

@[simp] theorem formed_paragraph (s : String) (o : ParagraphOptions) :
    (paragraph style s o).Formed accept ↔ accept s := formed_run style ..

@[simp] theorem formed_text (s : String) : (text style s).Formed accept ↔ accept s :=
  formed_run style ..

@[simp] theorem formed_small (s : String) (o : ParagraphOptions) :
    (small style s o).Formed accept ↔ accept s := formed_run style ..

@[simp] theorem formed_numberedAt (number s : String) (indent : UInt16) :
    (numberedAt style number s indent).Formed accept ↔ accept s := formed_run style ..

@[simp] theorem formed_numbered (number s : String) :
    (numbered style number s).Formed accept ↔ accept s := formed_run style ..

@[simp] theorem formed_dateLine (label : String) (date : Option Date) :
    (dateLine style label date).Formed accept ↔
      accept (label ++ ": " ++ Filler.dateOrDots date 24) := formed_run style ..

@[simp] theorem formed_pageBreak : Block.pageBreak.Formed accept := trivial

/-! ### Tables and boxes -/

@[simp] theorem formed_table (id : String) (header : List String) (rows : List TableRow) :
    (table style id header rows).Formed accept ↔
      ∀ row ∈ rows, row.cells.length = header.length := Iff.rfl

@[simp] theorem formed_checkboxes (id : String) (caption : Option String)
    (options : List (String × String × Bool)) (indent : UInt16) :
    (checkboxes style id caption options indent).Formed accept ↔ options ≠ [] := by
  have drawn : ∀ o ∈ (checkboxGroup style id caption options indent).options,
      o.glyph = if o.checked then Filler.checkedBox else Filler.uncheckedBox := by
    intro o ho
    obtain ⟨p, _, rfl⟩ := List.mem_map.mp ho
    rfl
  exact (and_iff_left drawn).trans (not_congr List.map_eq_nil_iff)

@[simp] theorem formed_choice (id : String) (caption : Option String)
    (selection : ClauseSelection) (options : List (String × String)) :
    (choice style id caption selection options).Formed accept ↔ options ≠ [] := by
  rw [choice, formed_checkboxes, ne_eq, List.map_eq_nil_iff]

@[simp] theorem formed_passage {Facts : Type} (t : ClauseTable Facts) (facts : Facts)
    (options : List (String × String)) (caption : Option String) :
    (passage style t facts options caption).Formed accept ↔ options ≠ [] := formed_choice style ..

/-! ### Signatures and jurats -/

@[simp] theorem formed_signature (signatory caption : String) :
    (signature style signatory caption).Formed accept := by
  simp only [signature, Block.Formed]
  exact Filler.filled_orDots signatory (by decide)

@[simp] theorem allFormed_signatures (names : List String) (caption : String) :
    AllFormed accept (signatures style names caption) := by
  intro b hb
  obtain ⟨name, _, rfl⟩ := List.mem_map.mp hb
  exact formed_signature style name caption

@[simp] theorem formed_jurat (place : String) (date : Option Date) (deponents : List String) :
    (jurat style place date deponents).Formed accept := by
  refine ⟨fun unsigned => ?_, fun line hline => ?_⟩
  · have empty : (if deponents.isEmpty then [""] else deponents) = [] :=
      List.map_eq_nil_iff.mp unsigned
    split at empty
    · cases empty
    · simp_all
  · obtain ⟨name, _, rfl⟩ := List.mem_map.mp hline
    exact ⟨_, Filler.filled_orDots name (by decide), rfl⟩

/-! ### Enumerations -/

@[simp] theorem allFormed_enumeration (entries : List String) (indent : UInt16) :
    AllFormed accept (enumeration style entries indent) ↔ ∀ entry ∈ entries, accept entry := by
  unfold enumeration
  rw [← List.flatMap_singleton' (entries.mapIdx _), List.flatMap_def, map_mapIdx]
  exact allFormed_flatten_mapIdx_iff (fun i entry => by simp)

theorem allFormed_enumerationOrNone (h : AcceptsFilled accept) (entries : List String) :
    AllFormed accept (enumerationOrNone style entries) ↔ ∀ entry ∈ entries, accept entry := by
  unfold enumerationOrNone
  split
  case isTrue empty =>
    have word : accept noneText := h.text (Text.filled_of_head rfl)
    simp [List.isEmpty_iff.mp empty, word]
  case isFalse => exact allFormed_enumeration style entries 1

end Compose

/-! ## Documents -/

theorem DocumentContent.allFormed_blocks {accept : String → Prop} {d : DocumentContent} :
    AllFormed accept d.blocks ↔ ∀ s ∈ d.sections, AllFormed accept s.blocks := allFormed_flatMap

/-- Where all blocks are well formed, only the texts of the paragraphs are left to ask for. -/
theorem allFormed_iff_bodies {accept : String → Prop} {bs : List Block}
    (formed : AllFormed (fun _ => True) bs) :
    AllFormed accept bs ↔ ∀ p, .paragraph p ∈ bs → accept p.body := by
  refine ⟨fun h p hp => h _ hp, fun h b hb => ?_⟩
  cases b with
  | paragraph p => exact h p hb
  | table | checkboxes | signature | jurat | pageBreak => exact formed _ hb

/-- A document of well-formed blocks is well formed. -/
theorem DocumentContent.wellFormed_of_allFormed {accept : String → Prop} {d : DocumentContent}
    (h : AllFormed accept d.blocks) : d.WellFormed := by
  have rectangular : ∀ t ∈ d.tables, t.Rectangular := by
    intro t ht
    obtain ⟨b, hb, read⟩ := List.mem_filterMap.mp ht
    cases b <;> cases read
    exact h _ hb
  have drawn : ∀ g ∈ d.checkboxGroups, g.Drawn := by
    intro g hg
    obtain ⟨b, hb, read⟩ := List.mem_filterMap.mp hg
    cases b <;> cases read
    exact h _ hb
  exact
    { rectangular := rectangular
      columns := fun t ht _ hi => (rectangular t ht).map_column hi
      drawn := drawn
      sworn := fun _ hj => h _ hj
      signed := fun _ hs => h _ hs }

end EstateFiling
