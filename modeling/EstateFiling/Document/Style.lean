import EstateFiling.Json.Decoding

/-!
# Styles

The typeface and the sizes of a document.  Sizes are in half points, spacing and
indentation in twentieths of a point.
-/

namespace EstateFiling

/-- The typeface and sizes of a document. -/
structure StyleProfile where
  /-- The typeface. -/
  fontFamily : String
  /-- The size of running text. -/
  bodySize : UInt16
  /-- The size of headings. -/
  headingSize : UInt16
  /-- The size of titles. -/
  titleSize : UInt16
  /-- The size of small print and tables. -/
  smallSize : UInt16
  /-- The space after a paragraph. -/
  paragraphSpacing : UInt16
  /-- The width of one step of indentation. -/
  indentStep : UInt16
deriving DecidableEq, Repr, Inhabited

namespace StyleProfile

/-- The style with a given size of running text, at least 12: headings are one
point larger, titles two, and small print two points smaller, but at least 12
too. -/
def withBodySize (fontFamily : String) (size : UInt16) : StyleProfile :=
  let body := max size 12
  { fontFamily := fontFamily
    bodySize := body
    headingSize := body + 2
    titleSize := body + 4
    smallSize := max (body - 4) 12
    paragraphSpacing := 120
    indentStep := 720 }

/-- Twelve points of a serif typeface. -/
def standard : StyleProfile := withBodySize "Times New Roman" 24

/-- The width of a number of steps of indentation, held within 16 bits. -/
def indent (s : StyleProfile) (level : UInt16) : UInt16 :=
  UInt16.ofNat (min (s.indentStep.toNat * level.toNat) 65535)

/-- A style as data. -/
def toJson (s : StyleProfile) : Json :=
  .object [("font_family", .string s.fontFamily), ("body_size", .nat s.bodySize.toNat),
    ("heading_size", .nat s.headingSize.toNat), ("title_size", .nat s.titleSize.toNat),
    ("small_size", .nat s.smallSize.toNat),
    ("paragraph_spacing", .nat s.paragraphSpacing.toNat),
    ("indent_step", .nat s.indentStep.toNat)]

/-- Decodes a style. -/
def decode : Json.Decoder StyleProfile := Json.decodeRecord default
  [.required "font_family" Json.decodeString (fun r x => { r with fontFamily := x }),
    .required "body_size" Json.decodeUInt16 (fun r x => { r with bodySize := x }),
    .required "heading_size" Json.decodeUInt16 (fun r x => { r with headingSize := x }),
    .required "title_size" Json.decodeUInt16 (fun r x => { r with titleSize := x }),
    .required "small_size" Json.decodeUInt16 (fun r x => { r with smallSize := x }),
    .required "paragraph_spacing" Json.decodeUInt16 (fun r x => { r with paragraphSpacing := x }),
    .required "indent_step" Json.decodeUInt16 (fun r x => { r with indentStep := x })]

end StyleProfile

end EstateFiling
