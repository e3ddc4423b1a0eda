import EstateFiling.Document.Kind
import EstateFiling.Document.Style

/-!
# Documents

A document is a list of sections, and a section a list of blocks: paragraphs,
tables, groups of check boxes, signatures, jurats and page breaks.  The layout of
the printed page is left to whoever sets the document.

The lookups find the first section, table or group of boxes with an identifier.
`DocumentContent.plainText` is the text of all blocks, a line for each paragraph,
row or box.
-/

namespace EstateFiling

/-! ## Paragraphs -/

/-- How the lines of a paragraph are set. -/
inductive Alignment where
  /-- To the left. -/
  | left
  /-- Centred. -/
  | center
  /-- To the right. -/
  | right
  /-- To both sides. -/
  | justify
deriving DecidableEq, Repr, Inhabited

namespace Alignment

/-- Every alignment. -/
def all : List Alignment := [.left, .center, .right, .justify]

/-- The name of an alignment. -/
def name : Alignment → String
  | .left => "left"
  | .center => "center"
  | .right => "right"
  | .justify => "justify"

end Alignment

/-- A stretch of text in one face. -/
structure Run where
  /-- The text. -/
  text : String
  /-- Whether it is bold. -/
  bold : Bool
  /-- Whether it is in italics. -/
  italic : Bool
  /-- Whether it is underlined. -/
  underline : Bool
  /-- The size in half points. -/
  size : UInt16
deriving DecidableEq, Repr, Inhabited

/-- A paragraph. -/
structure Paragraph where
  /-- The number or marker in front. -/
  number : Option String
  /-- The text. -/
  runs : List Run
  /-- How the lines are set. -/
  align : Alignment
  /-- The indentation. -/
  indent : UInt16
  /-- The space after the paragraph. -/
  spacingAfter : UInt16
deriving DecidableEq, Repr, Inhabited

/-- The text of a paragraph with its number. -/
def Paragraph.text (p : Paragraph) : String :=
  let body := String.join (p.runs.map Run.text)
  match p.number with
  | some number => number ++ " " ++ body
  | none => body

/-! ## Tables -/

/-- A row of a table. -/
structure TableRow where
  /-- The cells. -/
  cells : List String
  /-- Whether the row is a total. -/
  emphasis : Bool
deriving DecidableEq, Repr, Inhabited

/-- A table. -/
structure Table where
  /-- The identifier. -/
  id : String
  /-- The headings of the columns. -/
  header : List String
  /-- The rows. -/
  rows : List TableRow
  /-- The size of the text. -/
  size : UInt16
deriving DecidableEq, Repr, Inhabited

namespace Table

/-- The rows that are not totals. -/
def bodyRows (t : Table) : List TableRow := t.rows.filter (fun row => !row.emphasis)

/-- The cells of a column in the rows that are not totals and have it. -/
def column (t : Table) (index : Nat) : List String :=
  t.bodyRows.filterMap (fun row => row.cells[index]?)

end Table

/-! ## Check boxes -/

/-- A check box. -/
structure CheckboxOption where
  /-- The identifier. -/
  id : String
  /-- The label. -/
  label : String
  /-- Whether it is checked. -/
  checked : Bool
  /-- The printed box. -/
  glyph : String
deriving DecidableEq, Repr, Inhabited

/-- A group of check boxes. -/
structure CheckboxGroup where
  /-- The identifier. -/
  id : String
  /-- The caption. -/
  caption : Option String
  /-- The boxes. -/
  options : List CheckboxOption
  /-- The indentation. -/
  indent : UInt16
  /-- The size of the text. -/
  size : UInt16
deriving DecidableEq, Repr, Inhabited

namespace CheckboxGroup

/-- The checked boxes. -/
def checked (g : CheckboxGroup) : List CheckboxOption := g.options.filter CheckboxOption.checked

/-- Whether a box with an identifier is checked. -/
def isChecked (g : CheckboxGroup) (id : String) : Bool :=
  g.options.any (fun option => option.id == id && option.checked)

end CheckboxGroup

/-! ## Signatures and jurats -/

/-- A place to sign. -/
structure SignatureBlock where
  /-- The line to sign on. -/
  line : String
  /-- The name of the person who signs. -/
  signatory : String
  /-- What the person signs as. -/
  caption : String
  /-- The size of the text. -/
  size : UInt16
deriving DecidableEq, Repr, Inhabited

/-- The statement that closes an affidavit. -/
structure Jurat where
  /-- Where and when the affidavit was sworn. -/
  swornLine : String
  /-- The lines for the commissioner. -/
  commissionerLines : List String
  /-- A signing line and a name for each deponent. -/
  deponents : List String
  /-- The size of the text. -/
  size : UInt16
deriving DecidableEq, Repr, Inhabited

/-! ## Blocks, sections and documents -/

/-- A block of a section. -/
inductive Block where
  /-- A paragraph. -/
  | paragraph (p : Paragraph)
  /-- A table. -/
  | table (t : Table)
  /-- A group of check boxes. -/
  | checkboxes (g : CheckboxGroup)
  /-- A place to sign. -/
  | signature (s : SignatureBlock)
  /-- The close of an affidavit. -/
  | jurat (j : Jurat)
  /-- A page break. -/
  | pageBreak
deriving DecidableEq, Repr, Inhabited

/-- The lines of a block's text. -/
def Block.lines : Block → List String
  | .paragraph p => [p.text]
  | .table t =>
      " | ".intercalate t.header :: t.rows.map (fun row => " | ".intercalate row.cells)
  | .checkboxes g =>
      g.caption.toList ++ g.options.map (fun option => option.glyph ++ " " ++ option.label)
  | .signature s => [s.line, s.signatory, s.caption]
  | .jurat j => j.swornLine :: j.commissionerLines ++ j.deponents
  | .pageBreak => []

/-- The group of check boxes that a block is. -/
def Block.group? : Block → Option CheckboxGroup
  | .checkboxes g => some g
  | _ => none

/-- The table that a block is. -/
def Block.table? : Block → Option Table
  | .table t => some t
  | _ => none

/-- The paragraph that a block is. -/
def Block.paragraph? : Block → Option Paragraph
  | .paragraph p => some p
  | _ => none

/-- A section of a document. -/
structure Section where
  /-- The identifier. -/
  id : String
  /-- The heading. -/
  heading : Option String
  /-- The blocks. -/
  blocks : List Block
deriving DecidableEq, Repr, Inhabited

/-- The lines of a section's text. -/
def Section.lines (s : Section) : List String := s.heading.toList ++ s.blocks.flatMap Block.lines

/-- A document. -/
structure DocumentContent where
  /-- The kind. -/
  kind : DocumentKind
  /-- The title. -/
  title : String
  /-- The style. -/
  style : StyleProfile
  /-- The sections. -/
  sections : List Section
deriving DecidableEq, Repr, Inhabited

namespace DocumentContent

/-- The blocks of all sections. -/
def blocks (d : DocumentContent) : List Block := d.sections.flatMap Section.blocks

/-- The paragraphs of all sections. -/
def paragraphs (d : DocumentContent) : List Paragraph := d.blocks.filterMap Block.paragraph?

/-- The groups of check boxes of all sections. -/
def checkboxGroups (d : DocumentContent) : List CheckboxGroup := d.blocks.filterMap Block.group?

/-- The tables of all sections. -/
def tables (d : DocumentContent) : List Table := d.blocks.filterMap Block.table?

/-- The first section with an identifier. -/
def section? (d : DocumentContent) (id : String) : Option Section :=
  d.sections.find? (fun s => s.id == id)

/-- The first group of check boxes with an identifier. -/
def checkboxGroup? (d : DocumentContent) (id : String) : Option CheckboxGroup :=
  d.checkboxGroups.find? (fun g => g.id == id)

/-- The first table with an identifier. -/
def table? (d : DocumentContent) (id : String) : Option Table :=
  d.tables.find? (fun t => t.id == id)

/-- The text of the document, line by line. -/
def plainText (d : DocumentContent) : String :=
  "\n".intercalate (d.sections.flatMap Section.lines)

end DocumentContent

end EstateFiling
