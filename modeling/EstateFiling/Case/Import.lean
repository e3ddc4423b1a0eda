import EstateFiling.Case.Record
import EstateFiling.Csv.Table

/-!
# Importing a schedule

A schedule of assets may be kept as a file of comma-separated values with a
column for each field of a schedule line.  Only the category is required; a value,
a creditor or an amount that is left blank is absent.
-/

namespace EstateFiling

namespace ScheduleRecord

/-- The columns of a schedule file. -/
def columns : Csv.Columns where
  names := ["Category", "Description", "Value", "Secured Creditor", "Secured Amount"]
  required := "Category"

/-- A field that is not blank. -/
def filled? (row : Csv.Row) (name : String) : Option String :=
  (row.get? name).filter (fun field => !Text.isBlankText field)

/-- The schedule line of a row. -/
def ofRow (row : Csv.Row) : ScheduleRecord :=
  { category := (row.get? "Category").getD ""
    description := (row.get? "Description").getD ""
    value := (filled? row "Value").map Json.string
    securedCreditor := filled? row "Secured Creditor"
    securedAmount := (filled? row "Secured Amount").map Json.string }

/-- The schedule lines of a file. -/
def ofCsv (bytes : List UInt8) : Except Csv.Fault (List ScheduleRecord) :=
  (columns.rows bytes).map (fun rows => rows.map ofRow)

end ScheduleRecord

end EstateFiling
