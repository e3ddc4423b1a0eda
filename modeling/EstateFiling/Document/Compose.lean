import EstateFiling.Document.Clause
import EstateFiling.Document.Content
import EstateFiling.Document.Filler

/-!
# Composing blocks

The constructors of blocks in a style.  Each takes the style first, so that every
size and indentation of a document comes from one place.
`Compose.choice` prints a passage of a clause table: one box for each option, and
the active clause's box checked.
-/

namespace EstateFiling

/-- How a paragraph is set. -/
structure ParagraphOptions where
  /-- Whether it is bold. -/
  bold : Bool := false
  /-- Whether it is in italics. -/
  italic : Bool := false
  /-- How its lines are set. -/
  align : Alignment := .left
  /-- The steps of indentation. -/
  indent : UInt16 := 0
deriving DecidableEq, Repr

namespace Compose

/-! ## Runs -/

/-- A run of running text. -/
def run (style : StyleProfile) (text : String) : Run :=
  { text := text, bold := false, italic := false, underline := false, size := style.bodySize }

/-- A bold run. -/
def boldRun (style : StyleProfile) (text : String) : Run := { run style text with bold := true }

/-- An underlined run. -/
def underlinedRun (style : StyleProfile) (text : String) : Run :=
  { run style text with underline := true }

/-! ## Paragraphs -/

/-- A paragraph of runs. -/
def runs (style : StyleProfile) (number : Option String) (rs : List Run)
    (options : ParagraphOptions) : Block :=
  .paragraph
    { number := number
      runs := rs
      align := options.align
      indent := style.indent options.indent
      spacingAfter := style.paragraphSpacing }

/-- A title. -/
def title (style : StyleProfile) (text : String) : Block :=
  runs style none [{ boldRun style text with size := style.titleSize }] { align := .center }

/-- A heading. -/
def heading (style : StyleProfile) (text : String) : Block :=
  runs style none [{ boldRun style text with size := style.headingSize }] {}

/-- A paragraph. -/
def paragraph (style : StyleProfile) (text : String) (options : ParagraphOptions) : Block :=
  runs style none [{ run style text with bold := options.bold, italic := options.italic }] options

/-- A paragraph of plain text. -/
def text (style : StyleProfile) (s : String) : Block := paragraph style s {}

/-- A paragraph in small print. -/
def small (style : StyleProfile) (text : String) (options : ParagraphOptions) : Block :=
  runs style none
    [{ run style text with
        bold := options.bold, italic := options.italic, size := style.smallSize }]
    options

/-- A numbered paragraph with some steps of indentation. -/
def numberedAt (style : StyleProfile) (number text : String) (indent : UInt16) : Block :=
  runs style (some number) [run style text] { align := .justify, indent := indent }

/-- A numbered paragraph. -/
def numbered (style : StyleProfile) (number text : String) : Block :=
  numberedAt style number text 0

/-- A paragraph of runs without a number. -/
def rich (style : StyleProfile) (rs : List Run) (options : ParagraphOptions) : Block :=
  runs style none rs options

/-! ## Boxes -/

/-- A check box. -/
def option (id label : String) (checked : Bool) : CheckboxOption :=
  { id := id, label := label, checked := checked, glyph := Filler.box checked }

/-- A group of boxes that are independent of each other. -/
def checkboxes (style : StyleProfile) (id : String) (caption : Option String)
    (options : List (String × String × Bool)) (indent : UInt16) : Block :=
  .checkboxes
    { id := id
      caption := caption
      options := options.map (fun (id, label, checked) => option id label checked)
      indent := style.indent indent
      size := style.bodySize }

/-- A group of one box with the group's identifier. -/
def checkbox (style : StyleProfile) (id label : String) (checked : Bool) : Block :=
  checkboxes style id none [(id, label, checked)] 0

/-- One box for each option, checked for the active clause only. -/
def choice (style : StyleProfile) (id : String) (caption : Option String)
    (selection : ClauseSelection) (options : List (String × String)) : Block :=
  checkboxes style id caption
    (options.map (fun (id, label) => (id, label, selection.isActive id))) 1

/-- The passage of a clause table for some facts, under the table's own
identifier. -/
def passage {Facts : Type} (style : StyleProfile) (table : ClauseTable Facts) (facts : Facts)
    (options : List (String × String)) (caption : Option String := none) : Block :=
  choice style table.group caption (table.select facts) options

/-! ## Enumerations -/

/-- What stands in place of an empty enumeration. -/
def noneText : String := "None."

/-- Entries marked with letters. -/
def enumeration (style : StyleProfile) (entries : List String) (indent : UInt16) : List Block :=
  entries.mapIdx (fun i entry => numberedAt style (Filler.letterMarker i) entry indent)

/-- Entries marked with letters, or a word in their place when there are none. -/
def enumerationOrNone (style : StyleProfile) (entries : List String) : List Block :=
  if entries.isEmpty then [paragraph style noneText { indent := 1 }]
  else enumeration style entries 1

/-! ## Other blocks -/

/-- A table. -/
def table (style : StyleProfile) (id : String) (header : List String) (rows : List TableRow) :
    Block :=
  .table { id := id, header := header, rows := rows, size := style.smallSize }

/-- A place to sign. -/
def signature (style : StyleProfile) (signatory caption : String) : Block :=
  .signature
    { line := Filler.underline 40
      signatory := Filler.orDots signatory 30
      caption := caption
      size := style.bodySize }

/-- A place to sign for each name; without any, one blank place. -/
def signatures (style : StyleProfile) (names : List String) (caption : String) : List Block :=
  (if names.isEmpty then [""] else names).map (fun name => signature style name caption)

/-- A label and a date. -/
def dateLine (style : StyleProfile) (label : String) (date : Option Date) : Block :=
  text style (label ++ ": " ++ Filler.dateOrDots date 24)

/-- The signing line and the name of one deponent. -/
def deponentLine (name : String) : String := Filler.underline 40 ++ "\n" ++ Filler.orDots name 30

/-- The close of an affidavit sworn by the named deponents; without any, one
blank deponent. -/
def jurat (style : StyleProfile) (place : String) (date : Option Date)
    (deponents : List String) : Block :=
  .jurat
    { swornLine := "SWORN (OR AFFIRMED) BEFORE ME at " ++ Filler.orDots place 24
        ++ ", British Columbia, on " ++ Filler.dateOrDots date 24 ++ "."
      commissionerLines :=
        [Filler.underline 40, "A commissioner for taking affidavits for British Columbia",
          "[print name or affix stamp of commissioner] " ++ Filler.dots 20]
      deponents := (if deponents.isEmpty then [""] else deponents).map deponentLine
      size := style.bodySize }

end Compose

end EstateFiling
