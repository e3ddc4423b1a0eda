import EstateFiling.Calendar.Reading
import EstateFiling.Text.Blank

/-!
# Fields of records

A text in a record is trimmed when it is read, and a blank one is as good as a
missing one.
-/

namespace EstateFiling.Field

/-- A text, trimmed; empty when it is missing. -/
def text (value : Option String) : String := Text.trim (value.getD "")

/-- A text, trimmed, unless it is missing or blank. -/
def text? (value : Option String) : Option String :=
  let trimmed := text value
  if trimmed.isEmpty then none else some trimmed

/-- A date, unless it is missing or not a date. -/
def date? (value : Option String) : Option Date := value.bind Date.ofRecord?

end EstateFiling.Field
