import EstateFiling.Document.Content

/-!
# Documents as data

The form in which documents are handed on.  A block carries the name of its
sort in the member `type`; as a list, the name comes first.  The sort may come
last, so a block is read as a whole before its members are.  The heading of a
section, the number of a paragraph and the caption of a group are left out when
there is none.
-/

namespace EstateFiling

namespace Alignment

/-- An alignment as data. -/
def toJson (a : Alignment) : Json := .string a.name

/-- Decodes an alignment. -/
def decode : Json.Decoder Alignment := Json.decodeEnum all name

/-- Decodes an alignment inside a block, where an empty object is as good as
null for the value of the name. -/
def decodeInBlock : Json.Decoder Alignment
  | .object [(some name, .object [] true)] true => decode (.string name)
  | s => decode s

end Alignment

namespace Run

/-- A run as data. -/
def toJson (r : Run) : Json :=
  .object [("text", .string r.text), ("bold", .bool r.bold), ("italic", .bool r.italic),
    ("underline", .bool r.underline), ("size", .nat r.size.toNat)]

/-- Decodes a run. -/
def decode : Json.Decoder Run := Json.decodeRecord default
  [.required "text" Json.decodeString (fun r x => { r with text := x }),
    .required "bold" Json.decodeBool (fun r x => { r with bold := x }),
    .required "italic" Json.decodeBool (fun r x => { r with italic := x }),
    .required "underline" Json.decodeBool (fun r x => { r with underline := x }),
    .required "size" Json.decodeUInt16 (fun r x => { r with size := x })]

end Run

namespace Paragraph

/-- The members of a paragraph. -/
def members (p : Paragraph) : List (String × Json) :=
  Json.memberIfPresent "number" .string p.number
    ++ [("runs", .array (p.runs.map Run.toJson)), ("align", p.align.toJson),
      ("indent", .nat p.indent.toNat), ("spacing_after", .nat p.spacingAfter.toNat)]

/-- Decodes a paragraph. -/
def decode : Json.Decoder Paragraph := Json.decodeRecord default
  [.optionalString "number" (fun r x => { r with number := x }),
    .required "runs" (Json.decodeList Run.decode) (fun r x => { r with runs := x }),
    .required "align" Alignment.decodeInBlock (fun r x => { r with align := x }),
    .required "indent" Json.decodeUInt16 (fun r x => { r with indent := x }),
    .required "spacing_after" Json.decodeUInt16 (fun r x => { r with spacingAfter := x })]

end Paragraph

namespace TableRow

/-- A row as data. -/
def toJson (r : TableRow) : Json :=
  .object [("cells", .strings r.cells), ("emphasis", .bool r.emphasis)]

/-- Decodes a row. -/
def decode : Json.Decoder TableRow := Json.decodeRecord default
  [.required "cells" (Json.decodeList Json.decodeString) (fun r x => { r with cells := x }),
    .required "emphasis" Json.decodeBool (fun r x => { r with emphasis := x })]

end TableRow

namespace Table

/-- The members of a table. -/
def members (t : Table) : List (String × Json) :=
  [("id", .string t.id), ("header", .strings t.header),
    ("rows", .array (t.rows.map TableRow.toJson)), ("size", .nat t.size.toNat)]

/-- Decodes a table. -/
def decode : Json.Decoder Table := Json.decodeRecord default
  [.required "id" Json.decodeString (fun r x => { r with id := x }),
    .required "header" (Json.decodeList Json.decodeString) (fun r x => { r with header := x }),
    .required "rows" (Json.decodeList TableRow.decode) (fun r x => { r with rows := x }),
    .required "size" Json.decodeUInt16 (fun r x => { r with size := x })]

end Table

namespace CheckboxOption

/-- A check box as data. -/
def toJson (o : CheckboxOption) : Json :=
  .object [("id", .string o.id), ("label", .string o.label), ("checked", .bool o.checked),
    ("glyph", .string o.glyph)]

/-- Decodes a check box. -/
def decode : Json.Decoder CheckboxOption := Json.decodeRecord default
  [.required "id" Json.decodeString (fun r x => { r with id := x }),
    .required "label" Json.decodeString (fun r x => { r with label := x }),
    .required "checked" Json.decodeBool (fun r x => { r with checked := x }),
    .required "glyph" Json.decodeString (fun r x => { r with glyph := x })]

end CheckboxOption

namespace CheckboxGroup

/-- The members of a group. -/
def members (g : CheckboxGroup) : List (String × Json) :=
  ("id", .string g.id) :: Json.memberIfPresent "caption" .string g.caption
    ++ [("options", .array (g.options.map CheckboxOption.toJson)),
      ("indent", .nat g.indent.toNat), ("size", .nat g.size.toNat)]

/-- Decodes a group. -/
def decode : Json.Decoder CheckboxGroup := Json.decodeRecord default
  [.required "id" Json.decodeString (fun r x => { r with id := x }),
    .optionalString "caption" (fun r x => { r with caption := x }),
    .required "options" (Json.decodeList CheckboxOption.decode)
      (fun r x => { r with options := x }),
    .required "indent" Json.decodeUInt16 (fun r x => { r with indent := x }),
    .required "size" Json.decodeUInt16 (fun r x => { r with size := x })]

end CheckboxGroup

namespace SignatureBlock

/-- The members of a signature. -/
def members (s : SignatureBlock) : List (String × Json) :=
  [("line", .string s.line), ("signatory", .string s.signatory), ("caption", .string s.caption),
    ("size", .nat s.size.toNat)]

/-- Decodes a signature. -/
def decode : Json.Decoder SignatureBlock := Json.decodeRecord default
  [.required "line" Json.decodeString (fun r x => { r with line := x }),
    .required "signatory" Json.decodeString (fun r x => { r with signatory := x }),
    .required "caption" Json.decodeString (fun r x => { r with caption := x }),
    .required "size" Json.decodeUInt16 (fun r x => { r with size := x })]

end SignatureBlock

namespace Jurat

/-- The members of a jurat. -/
def members (j : Jurat) : List (String × Json) :=
  [("sworn_line", .string j.swornLine), ("commissioner_lines", .strings j.commissionerLines),
    ("deponents", .strings j.deponents), ("size", .nat j.size.toNat)]

/-- Decodes a jurat. -/
def decode : Json.Decoder Jurat := Json.decodeRecord default
  [.required "sworn_line" Json.decodeString (fun r x => { r with swornLine := x }),
    .required "commissioner_lines" (Json.decodeList Json.decodeString)
      (fun r x => { r with commissionerLines := x }),
    .required "deponents" (Json.decodeList Json.decodeString)
      (fun r x => { r with deponents := x }),
    .required "size" Json.decodeUInt16 (fun r x => { r with size := x })]

end Jurat

namespace Block

/-- The name of a block's sort. -/
def sort : Block → String
  | .paragraph _ => "paragraph"
  | .table _ => "table"
  | .checkboxes _ => "checkboxes"
  | .signature _ => "signature"
  | .jurat _ => "jurat"
  | .pageBreak => "page_break"

/-- The members of a block besides the name of its sort. -/
def members : Block → List (String × Json)
  | .paragraph p => p.members
  | .table t => t.members
  | .checkboxes g => g.members
  | .signature s => s.members
  | .jurat j => j.members
  | .pageBreak => []

/-- A block as data. -/
def toJson (b : Block) : Json := .object (("type", .string b.sort) :: b.members)

/-- The name of a block's sort and the rest of its data. -/
def split? : Json → Option (String × Json)
  | .object members =>
      match members.filter (fun m => m.1 == "type") with
      | [(_, .string sort)] => some (sort, .object (members.filter (fun m => m.1 != "type")))
      | _ => none
  | .array (.string sort :: items) => some (sort, .array items)
  | _ => none

/-- Decodes a block of a sort. -/
def decodeSort (sort : String) (rest : Json) : Except Json.Fault Block :=
  let s := rest.source
  match sort with
  | "paragraph" => (Paragraph.decode s).map .paragraph
  | "table" => (Table.decode s).map .table
  | "checkboxes" => (CheckboxGroup.decode s).map .checkboxes
  | "signature" => (SignatureBlock.decode s).map .signature
  | "jurat" => (Jurat.decode s).map .jurat
  | "page_break" => if rest matches .array (_ :: _) then .error .mistyped else .ok .pageBreak
  | _ => .error .mistyped

/-- Decodes a block, no part of which may have a flaw. -/
def decode : Json.Decoder Block := fun s => do
  let (sort, rest) ← Json.found (split? (← Json.decodeGiven s))
  decodeSort sort rest

end Block

namespace Section

/-- A section as data. -/
def toJson (s : Section) : Json :=
  .object (("id", .string s.id) :: Json.memberIfPresent "heading" .string s.heading
    ++ [("blocks", .array (s.blocks.map Block.toJson))])

/-- Decodes a section. -/
def decode : Json.Decoder Section := Json.decodeRecord default
  [.required "id" Json.decodeString (fun r x => { r with id := x }),
    .optionalString "heading" (fun r x => { r with heading := x }),
    .required "blocks" (Json.decodeList Block.decode) (fun r x => { r with blocks := x })]

end Section

namespace DocumentContent

/-- A document as data. -/
def toJson (d : DocumentContent) : Json :=
  .object [("kind", d.kind.toJson), ("title", .string d.title), ("style", d.style.toJson),
    ("sections", .array (d.sections.map Section.toJson))]

/-- Decodes a document. -/
def decode : Json.Decoder DocumentContent := Json.decodeRecord default
  [.required "kind" DocumentKind.decode (fun r x => { r with kind := x }),
    .required "title" Json.decodeString (fun r x => { r with title := x }),
    .required "style" StyleProfile.decode (fun r x => { r with style := x }),
    .required "sections" (Json.decodeList Section.decode) (fun r x => { r with sections := x })]

end DocumentContent

end EstateFiling
