import EstateFiling.Document.Compose
import EstateFiling.Proofs.List.Positions

/-!
# Styles

A style says how large the parts of a document are, how far they are indented and how much
space follows them.  A document written in `StyleProfile.marks` is a template: its sizes are
not sizes but mark which size of a style is meant, and its indentations count steps.
`Block.styled` puts a style in place of the marks.  Every constructor of blocks commutes
with it (`Compose.styled_paragraph` and its like), as long as no more than two steps of
indentation are asked for.

`Block.resized` is the general map, which changes nothing but sizes, indentations and
spaces.  `DocumentContent.unstyled` is another case of it: it forgets them.  So what is
written from a template is the same in all styles once they are forgotten
(`setsSizesOnly_of_template`).
-/

namespace EstateFiling

/-! ## Sizes -/

/-- What becomes of sizes, indentations and spaces. -/
structure Resizing where
  /-- Of the size of a run. -/
  run : UInt16 → UInt16
  /-- Of the size of a table. -/
  table : UInt16 → UInt16
  /-- Of the size of boxes, signatures and jurats. -/
  body : UInt16 → UInt16
  /-- Of an indentation. -/
  indent : UInt16 → UInt16
  /-- Of the space after a paragraph. -/
  spacing : UInt16 → UInt16

namespace Resizing

/-- Nothing is left. -/
def erase : Resizing := ⟨fun _ => 0, fun _ => 0, fun _ => 0, fun _ => 0, fun _ => 0⟩

/-- One after the other. -/
def comp (g f : Resizing) : Resizing :=
  ⟨g.run ∘ f.run, g.table ∘ f.table, g.body ∘ f.body, g.indent ∘ f.indent,
    g.spacing ∘ f.spacing⟩

@[simp] theorem erase_comp (f : Resizing) : erase.comp f = erase := rfl

end Resizing

section Resized

variable (f : Resizing)

/-- A run with its size changed. -/
def Run.resized (r : Run) : Run := { r with size := f.run r.size }

/-- A block with its sizes, indentation and space changed. -/
def Block.resized : Block → Block
  | .paragraph p =>
      .paragraph { p with
        runs := p.runs.map (Run.resized f)
        indent := f.indent p.indent
        spacingAfter := f.spacing p.spacingAfter }
  | .table t => .table { t with size := f.table t.size }
  | .checkboxes g => .checkboxes { g with indent := f.indent g.indent, size := f.body g.size }
  | .signature s => .signature { s with size := f.body s.size }
  | .jurat j => .jurat { j with size := f.body j.size }
  | .pageBreak => .pageBreak

/-- A section with the sizes, indentations and spaces of its blocks changed. -/
def Section.resized (s : Section) : Section := { s with blocks := s.blocks.map (Block.resized f) }

theorem Block.resized_resized (g : Resizing) (b : Block) :
    (b.resized f).resized g = b.resized (g.comp f) := by
  cases b with
  | paragraph p => simp only [resized, List.map_map]; rfl
  | _ => rfl

theorem Section.resized_resized (g : Resizing) (s : Section) :
    (s.resized f).resized g = s.resized (g.comp f) := by
  unfold resized
  rw [List.map_map]
  exact congrArg (Section.mk s.id s.heading)
    (List.map_congr_left fun b _ => b.resized_resized f g)

theorem Block.lines_resized (b : Block) : (b.resized f).lines = b.lines := by
  cases b with
  | paragraph p =>
    have texts : (p.runs.map (Run.resized f)).map Run.text = p.runs.map Run.text := by
      rw [List.map_map]
      rfl
    simp only [resized, lines, Paragraph.text, texts]
  | _ => rfl

theorem Section.lines_resized (s : Section) : (s.resized f).lines = s.lines := by
  unfold lines resized
  rw [List.flatMap_map]
  simp only [Block.lines_resized]

end Resized

/-- A document without its style, sizes, indentations and spaces. -/
def DocumentContent.unstyled (d : DocumentContent) : DocumentContent :=
  { d with style := default, sections := d.sections.map (Section.resized .erase) }

theorem DocumentContent.plainText_unstyled (d : DocumentContent) :
    d.unstyled.plainText = d.plainText := by
  unfold plainText unstyled
  rw [List.flatMap_map]
  simp only [Section.lines_resized]

/-! ## Templates -/

namespace StyleProfile

/-- The style of templates: each size marks the size of a style that is meant, and an
indentation is the number of its steps. -/
def marks : StyleProfile where
  fontFamily := ""
  bodySize := 0
  headingSize := 1
  titleSize := 2
  smallSize := 3
  paragraphSpacing := 0
  indentStep := 1

/-- The size that is marked. -/
def marked (s : StyleProfile) (mark : UInt16) : UInt16 :=
  if mark = 0 then s.bodySize
  else if mark = 1 then s.headingSize
  else if mark = 2 then s.titleSize
  else s.smallSize

/-- Puts a style in place of the marks.  There are at most two steps of indentation. -/
def resizing (s : StyleProfile) : Resizing where
  run := s.marked
  table := fun _ => s.smallSize
  body := fun _ => s.bodySize
  indent := fun steps => s.indent (min steps 2)
  spacing := fun _ => s.paragraphSpacing

theorem indent_marks (steps : UInt16) : marks.indent steps = steps := by
  have bound := steps.toNat_lt
  have unchanged : min (marks.indentStep.toNat * steps.toNat) 65535 = steps.toNat := by
    show min (1 * steps.toNat) 65535 = steps.toNat
    omega
  unfold indent
  rw [unchanged, UInt16.ofNat_toNat]

theorem toNat_indent (s : StyleProfile) (steps : UInt16) :
    (s.indent steps).toNat = min (s.indentStep.toNat * steps.toNat) 65535 := by
  unfold indent
  rw [UInt16.toNat_ofNat_of_lt']
  exact Nat.lt_of_le_of_lt (Nat.min_le_right ..) (by decide)

theorem resizing_indent {steps : UInt16} (h : steps ≤ 2) (s : StyleProfile) :
    s.resizing.indent (marks.indent steps) = s.indent steps := by
  rw [indent_marks]
  exact congrArg s.indent (if_pos h)

end StyleProfile

/-- A block of a template in a style. -/
def Block.styled (s : StyleProfile) : Block → Block := Block.resized s.resizing

/-- A section of a template in a style. -/
def Section.styled (s : StyleProfile) : Section → Section := Section.resized s.resizing

/-- A template in a style. -/
def DocumentContent.styled (s : StyleProfile) (d : DocumentContent) : DocumentContent :=
  { d with style := s, sections := d.sections.map (Section.styled s) }

@[simp] theorem Section.styled_mk (s : StyleProfile) (id : String) (heading : Option String)
    (bs : List Block) :
    Section.styled s ⟨id, heading, bs⟩ = ⟨id, heading, bs.map (Block.styled s)⟩ := rfl

@[simp] theorem DocumentContent.styled_mk (s style : StyleProfile) (kind : DocumentKind)
    (title : String) (sections : List Section) :
    DocumentContent.styled s ⟨kind, title, style, sections⟩ =
      ⟨kind, title, s, sections.map (Section.styled s)⟩ := rfl

@[simp] theorem map_styled_ite (s : StyleProfile) {p : Prop} [Decidable p] (bs cs : List Block) :
    (if p then bs else cs).map (Block.styled s) =
      if p then bs.map (Block.styled s) else cs.map (Block.styled s) := apply_ite ..

@[simp] theorem Block.styled_pageBreak (s : StyleProfile) :
    Block.pageBreak.styled s = .pageBreak := rfl

theorem map_styled_mapIdx {α : Type} {s : StyleProfile} {f g : Nat → α → Block}
    (h : ∀ i a, (f i a).styled s = g i a) (xs : List α) :
    (xs.mapIdx f).map (Block.styled s) = xs.mapIdx g := by
  rw [map_mapIdx]
  simp only [h]

theorem map_styled_flatten_mapIdx {α : Type} {s : StyleProfile} {f g : Nat → α → List Block}
    (h : ∀ i a, (f i a).map (Block.styled s) = g i a) (xs : List α) :
    (xs.mapIdx f).flatten.map (Block.styled s) = (xs.mapIdx g).flatten := by
  rw [List.map_flatten, map_mapIdx]
  simp only [h]

namespace Compose

variable (s : StyleProfile)

/-! ### Single blocks -/

theorem styled_runs (number : Option String) {rs rs' : List Run} {o : ParagraphOptions}
    (h : o.indent ≤ 2) (hrs : rs.map (Run.resized s.resizing) = rs') :
    (runs .marks number rs o).styled s = runs s number rs' o := by
  subst hrs
  unfold runs Block.styled
  simp only [Block.resized, s.resizing_indent h]
  rfl

@[simp] theorem styled_title (text : String) : (title .marks text).styled s = title s text :=
  styled_runs s _ (by decide) rfl

@[simp] theorem styled_heading (text : String) : (heading .marks text).styled s = heading s text :=
  styled_runs s _ (by decide) rfl

@[simp] theorem styled_paragraph (text : String) {o : ParagraphOptions} (h : o.indent ≤ 2) :
    (paragraph .marks text o).styled s = paragraph s text o :=
  styled_runs s _ h rfl

@[simp] theorem styled_text (t : String) : (text .marks t).styled s = text s t :=
  styled_runs s _ (by decide) rfl

@[simp] theorem styled_small (text : String) {o : ParagraphOptions} (h : o.indent ≤ 2) :
    (small .marks text o).styled s = small s text o :=
  styled_runs s _ h rfl

@[simp] theorem styled_numberedAt (number text : String) {indent : UInt16} (h : indent ≤ 2) :
    (numberedAt .marks number text indent).styled s = numberedAt s number text indent :=
  styled_runs s _ h rfl

@[simp] theorem styled_numbered (number text : String) :
    (numbered .marks number text).styled s = numbered s number text :=
  styled_numberedAt s number text (by decide)

@[simp] theorem styled_dateLine (label : String) (date : Option Date) :
    (dateLine .marks label date).styled s = dateLine s label date :=
  styled_text s _

@[simp] theorem styled_checkboxes (id : String) (caption : Option String)
    (options : List (String × String × Bool)) {indent : UInt16} (h : indent ≤ 2) :
    (checkboxes .marks id caption options indent).styled s =
      checkboxes s id caption options indent := by
  unfold checkboxes Block.styled
  simp only [Block.resized, s.resizing_indent h]
  rfl

@[simp] theorem styled_choice (id : String) (caption : Option String) (selection : ClauseSelection)
    (options : List (String × String)) :
    (choice .marks id caption selection options).styled s =
      choice s id caption selection options :=
  styled_checkboxes s id caption _ (by decide)

@[simp] theorem styled_passage {Facts : Type} (t : ClauseTable Facts) (facts : Facts)
    (options : List (String × String)) (caption : Option String) :
    (passage .marks t facts options caption).styled s = passage s t facts options caption :=
  styled_choice s _ caption _ options

@[simp] theorem styled_table (id : String) (header : List String) (rows : List TableRow) :
    (table .marks id header rows).styled s = table s id header rows := rfl

@[simp] theorem styled_signature (signatory caption : String) :
    (signature .marks signatory caption).styled s = signature s signatory caption := by
  unfold signature Block.styled
  simp only [Block.resized]
  rfl

@[simp] theorem styled_jurat (place : String) (date : Option Date) (deponents : List String) :
    (jurat .marks place date deponents).styled s = jurat s place date deponents := by
  unfold jurat Block.styled
  simp only [Block.resized]
  rfl

/-! ### Lists of blocks -/

@[simp] theorem styled_enumeration (entries : List String) {indent : UInt16} (h : indent ≤ 2) :
    (enumeration .marks entries indent).map (Block.styled s) = enumeration s entries indent :=
  map_styled_mapIdx (fun _ entry => styled_numberedAt s _ entry h) entries

@[simp] theorem styled_enumerationOrNone (entries : List String) :
    (enumerationOrNone .marks entries).map (Block.styled s) = enumerationOrNone s entries := by
  unfold enumerationOrNone
  split
  · exact congrArg (fun b => [b]) (styled_paragraph s noneText (by decide))
  · exact styled_enumeration s entries (by decide)

@[simp] theorem styled_signatures (names : List String) (caption : String) :
    (signatures .marks names caption).map (Block.styled s) = signatures s names caption := by
  unfold signatures
  rw [List.map_map]
  exact List.map_congr_left fun name _ => styled_signature s name caption

end Compose

/-! ## What a style sets -/

/-- The sizes in a block and the space after it are those of a style. -/
def Block.SizedIn (s : StyleProfile) : Block → Prop
  | .paragraph p =>
      (∀ r ∈ p.runs, r.size ∈ [s.bodySize, s.headingSize, s.titleSize, s.smallSize])
        ∧ p.spacingAfter = s.paragraphSpacing
  | .table t => t.size = s.smallSize
  | .checkboxes g => g.size = s.bodySize
  | .signature b => b.size = s.bodySize
  | .jurat j => j.size = s.bodySize
  | .pageBreak => True

theorem StyleProfile.marked_mem (s : StyleProfile) (mark : UInt16) :
    s.marked mark ∈ [s.bodySize, s.headingSize, s.titleSize, s.smallSize] := by
  unfold marked
  split_ifs <;> simp

theorem Block.sizedIn_styled (s : StyleProfile) (b : Block) : (b.styled s).SizedIn s := by
  cases b with
  | paragraph p =>
    refine ⟨fun r hr => ?_, rfl⟩
    obtain ⟨r, _, rfl⟩ := List.mem_map.mp hr
    exact s.marked_mem r.size
  | pageBreak => exact trivial
  | _ => exact rfl

/-- The indentation of a block that has one. -/
def Block.indent? : Block → Option UInt16
  | .paragraph p => some p.indent
  | .checkboxes g => some g.indent
  | _ => none

/-- The indentations in a document. -/
def DocumentContent.indents (d : DocumentContent) : List UInt16 := d.blocks.filterMap Block.indent?

theorem DocumentContent.blocks_styled (s : StyleProfile) (d : DocumentContent) :
    (d.styled s).blocks = d.blocks.map (Block.styled s) := by
  unfold blocks styled
  rw [List.flatMap_map, List.map_flatMap]
  rfl

theorem DocumentContent.indents_styled (s : StyleProfile) (d : DocumentContent) :
    (d.styled s).indents = d.indents.map fun steps => s.indent (min steps 2) := by
  unfold indents
  rw [blocks_styled, List.filterMap_map, List.map_filterMap]
  refine List.filterMap_congr fun b _ => ?_
  cases b <;> rfl

theorem DocumentContent.unstyled_styled (s : StyleProfile) (d : DocumentContent) :
    (d.styled s).unstyled = d.unstyled := by
  unfold unstyled styled Section.styled
  rw [List.map_map]
  simp only [Function.comp_def, Section.resized_resized, Resizing.erase_comp]

/-- The style of a document sets its sizes, indentations and spaces, and nothing else. -/
structure SetsSizesOnly (write : StyleProfile → DocumentContent) : Prop where
  /-- In two styles a document is the same except in these. -/
  substance : ∀ s t, (write s).unstyled = (write t).unstyled
  /-- Its text is the same. -/
  text : ∀ s t, (write s).plainText = (write t).plainText
  /-- The document names its style. -/
  style : ∀ s, (write s).style = s
  /-- The sizes and spaces are those of the style. -/
  sizes : ∀ s, ∀ b ∈ (write s).blocks, b.SizedIn s
  /-- A block is indented by up to two steps, as many in each style. -/
  indents : ∃ levels : List Nat, (∀ level ∈ levels, level ≤ 2)
    ∧ ∀ s, (write s).indents.map UInt16.toNat =
      levels.map fun level => min (s.indentStep.toNat * level) 65535

section Template

variable {write : StyleProfile → DocumentContent} (h : ∀ s, (write .marks).styled s = write s)

include h

theorem unstyled_of_template (s t : StyleProfile) : (write s).unstyled = (write t).unstyled := by
  rw [← h s, ← h t, DocumentContent.unstyled_styled, DocumentContent.unstyled_styled]

/-- What is written from a template takes only sizes, indentations and spaces from the
style. -/
theorem setsSizesOnly_of_template : SetsSizesOnly write where
  substance := unstyled_of_template h
  text s t := by
    rw [← DocumentContent.plainText_unstyled, unstyled_of_template h s t,
      DocumentContent.plainText_unstyled]
  style s := by
    rw [← h s]
    rfl
  sizes s b hb := by
    rw [← h s, DocumentContent.blocks_styled] at hb
    obtain ⟨b, _, rfl⟩ := List.mem_map.mp hb
    exact b.sizedIn_styled s
  indents := by
    -- In the template an indentation is the number of its steps.
    refine ⟨(write .marks).indents.map fun steps => (min steps 2).toNat, ?bounded, fun s => ?levels⟩
    case bounded =>
      intro level hlevel
      obtain ⟨steps, _, rfl⟩ := List.mem_map.mp hlevel
      exact UInt16.le_iff_toNat_le.mp (Std.min_le_right)
    case levels =>
      rw [← h s, DocumentContent.indents_styled, List.map_map, List.map_map]
      refine List.map_congr_left fun steps _ => ?_
      exact s.toNat_indent (min steps 2)

end Template

end EstateFiling
