import EstateFiling.Document.Style

/-!
# Settings for documents

The typeface and size of all documents, and the registry that is named when a
case names none.
-/

namespace EstateFiling

/-- Settings that hold for all documents. -/
structure DocumentSettings where
  /-- The typeface. -/
  fontFamily : String := "Times New Roman"
  /-- The size of running text in points. -/
  fontSizePoints : UInt16 := 12
  /-- The registry of cases that name none. -/
  defaultRegistry : String := ""
deriving DecidableEq, Repr, Inhabited

/-- The style that the settings ask for. -/
def DocumentSettings.style (s : DocumentSettings) : StyleProfile :=
  StyleProfile.withBodySize s.fontFamily (s.fontSizePoints * 2)

end EstateFiling
