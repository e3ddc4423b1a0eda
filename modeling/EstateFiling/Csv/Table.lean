import EstateFiling.Csv.Record
import EstateFiling.Text.Blank
import EstateFiling.Text.Utf8

/-!
# Tables with named columns

The first record of a file names the columns; every other record is a row with as
many fields.  Names and fields are trimmed.  When the first record is not text,
the columns have no names and a row is read by position.

The faults of a row are found in this order: the number of its fields, bytes that
are not text, a column named twice, a required column that is missing.  Columns
that are not asked for are ignored.
-/

namespace EstateFiling.Csv

/-- What is wrong with a file. -/
inductive Fault where
  /-- A record has another number of fields than the first. -/
  | unequalLengths (record expected found : Nat)
  /-- A record is not text. -/
  | notText (record : Nat)
  /-- A column that is asked for is named twice. -/
  | repeatedColumn (record : Nat) (name : String)
  /-- A column that is required has no name in the first record. -/
  | missingColumn (record : Nat) (name : String)
deriving DecidableEq, Repr

/-- The fault in words, without its place. -/
def Fault.detail : Fault → String
  | .unequalLengths _ expected found =>
      "found record with " ++ toString found ++ " fields, but the previous record has "
        ++ toString expected ++ " fields"
  | .notText _ => "invalid UTF-8"
  | .repeatedColumn _ name => "duplicate field `" ++ name ++ "`"
  | .missingColumn _ name => "missing field `" ++ name ++ "`"

/-- The record that is faulty, counted from zero. -/
def Fault.record : Fault → Nat
  | .unequalLengths record _ _ | .notText record | .repeatedColumn record _
  | .missingColumn record _ => record

/-- The wording of a fault. -/
def Fault.message (f : Fault) : String :=
  "CSV error: record " ++ toString f.record ++ ": " ++ f.detail

/-- The text of the fields of a record, trimmed. -/
def texts? (fields : List Field) : Option (List String) :=
  (fields.mapM Text.ofUtf8?).map (fun texts => texts.map Text.trim)

/-- The first entry that occurred before. -/
def firstAgain? (names : List String) : Option String :=
  go [] names
where
  /-- The first entry that is among those already seen or occurred before. -/
  go (seen : List String) : List String → Option String
    | [] => none
    | name :: names => if seen.contains name then some name else go (name :: seen) names

/-- A row: the fields under the names of their columns. -/
abbrev Row := List (String × String)

/-- The field in a column. -/
def Row.get? (row : Row) (name : String) : Option String :=
  (row.find? (fun column => column.1 == name)).map Prod.snd

/-- The first record. -/
structure Header where
  /-- The number of its fields. -/
  width : Nat
  /-- The names of the columns, if the record is text. -/
  names : Option (List String)
deriving DecidableEq, Repr

/-- The header that a record is. -/
def Header.ofFields (fields : List Field) : Header := ⟨fields.length, texts? fields⟩

/-- The columns that are asked for, in order, one of which is required. -/
structure Columns where
  /-- The names. -/
  names : List String
  /-- The name that must be there. -/
  required : String
deriving DecidableEq, Repr

/-- Names the fields of a record by their columns.  Without names the columns stand
in the order in which they are asked for. -/
def Columns.row (columns : Columns) (names : Option (List String)) (record : Nat)
    (fields : List String) : Except Fault Row :=
  match names with
  | none => .ok (columns.names.zip fields)
  | some names =>
      match firstAgain? (names.filter columns.names.contains) with
      | some name => .error (.repeatedColumn record name)
      | none =>
          if names.contains columns.required then .ok (names.zip fields)
          else .error (.missingColumn record columns.required)

/-- Reads one record as a row. -/
def Columns.read (columns : Columns) (header : Header) (record : Nat) (fields : List Field) :
    Except Fault Row :=
  if fields.length = header.width then
    match texts? fields with
    | some texts => columns.row header.names record texts
    | none => .error (.notText record)
  else .error (.unequalLengths record header.width fields.length)

/-- The rows of records, the first of which has a number; the first faulty row
decides. -/
def Columns.readAll (columns : Columns) (header : Header) :
    Nat → List (List Field) → Except Fault (List Row)
  | _, [] => .ok []
  | record, fields :: rest => do
      let first ← columns.read header record fields
      let others ← columns.readAll header (record + 1) rest
      .ok (first :: others)

/-- The rows of a file. -/
def Columns.rows (columns : Columns) (bytes : List UInt8) : Except Fault (List Row) :=
  match records bytes with
  | [] => .ok []
  | header :: body => columns.readAll (Header.ofFields header) 1 body

end EstateFiling.Csv
