import EstateFiling.Csv.Table
import EstateFiling.Proofs.Failure.Chain

/-!
# The first faulty row

A file is read row by row, and the first faulty row decides: the reading fails with its fault,
however many rows before it are in order and whatever stands after it
(`Csv.Columns.rows_eq_error_iff`).
-/

namespace EstateFiling.Csv.Columns

/-- A record, with its number, cannot be read as a row. -/
def Faulty (columns : Columns) (header : Header) (record : List Field × Nat) (fault : Fault) :
    Prop :=
  columns.read header record.2 record.1 = .error fault

/-- A fault is that of the first faulty row of a file.  The first record names the columns, and
the rows after it are counted from one. -/
def FirstFault (columns : Columns) (bytes : List UInt8) (fault : Fault) : Prop :=
  ∃ header body, records bytes = header :: body
    ∧ FirstFailure (columns.Faulty (Header.ofFields header)) (body.zipIdx 1) fault

variable {columns : Columns} {header : Header}

/-- Reading records fails by them, one after the other. -/
theorem failsBy_readAll {number : Nat} {rows : List (List Field)} :
    FailsBy (columns.readAll header number rows) (columns.Faulty header)
      (rows.zipIdx number) := by
  induction rows generalizing number with
  | nil => exact .ok []
  | cons first rows ih =>
    have here : FailsBy (columns.read header number first) (columns.Faulty header)
        [(first, number)] := .single fun _ => Iff.rfl
    have others (row : Row) :
        FailsBy (columns.readAll header (number + 1) rows >>= fun others => .ok (row :: others))
          (columns.Faulty header) (rows.zipIdx (number + 1) ++ []) :=
      ih.bind fun others _ => .ok (row :: others)
    rw [readAll, List.zipIdx_cons]
    simp only [List.append_nil] at others
    exact here.bind fun row _ => others row

/-- A file cannot be read exactly if a row is faulty, and the first such row decides. -/
theorem rows_eq_error_iff {bytes : List UInt8} {fault : Fault} :
    columns.rows bytes = .error fault ↔ columns.FirstFault bytes fault := by
  unfold rows FirstFault
  cases records bytes with
  | nil => simp
  | cons header body =>
    refine (failsBy_readAll fault).trans ⟨fun first => ⟨header, body, rfl, first⟩, ?_⟩
    rintro ⟨_, _, ⟨⟩, first⟩
    exact first

/-- A short row is a fault also after a row that is in order. -/
example : (⟨["Category", "Value"], "Category"⟩ : Columns).rows
    "Category,Value\nCash,1\nCash\nCar,2\n".toUTF8.toList = .error (.unequalLengths 2 2 1) := by
  decide +kernel

end EstateFiling.Csv.Columns
