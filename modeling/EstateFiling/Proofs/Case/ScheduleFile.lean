import EstateFiling.Case.Import
import EstateFiling.Proofs.Csv.Quoting
import EstateFiling.Proofs.Text.Trimming

/-!
# Schedule files come back

A schedule file that is written with its fields in quotes is imported as it was, line by
line (`ScheduleRecord.import_file`).  The five columns may stand in any order, with further
columns between them (`ScheduleLayout`), the fields may hold any text, and each record may
have its own line end.

A line is found in its row by the names of the columns.  No further column has one of these
names, not even after trimming, so the first column with such a name is the right one
(`ScheduleLayout.get?_row`).
-/

namespace EstateFiling

/-! ## Layouts -/

/-- The columns of a schedule file that are read. -/
inductive ScheduleColumn where
  /-- The collection. -/
  | category
  /-- What it is. -/
  | description
  /-- What it is worth. -/
  | value
  /-- The creditor of a secured debt. -/
  | securedCreditor
  /-- The amount of a secured debt. -/
  | securedAmount
deriving DecidableEq, Repr

namespace ScheduleColumn

/-- Every column. -/
def all : List ScheduleColumn := [.category, .description, .value, .securedCreditor, .securedAmount]

/-- The name of a column. -/
def name : ScheduleColumn → String
  | .category => "Category"
  | .description => "Description"
  | .value => "Value"
  | .securedCreditor => "Secured Creditor"
  | .securedAmount => "Secured Amount"

theorem name_injective : Function.Injective name := by
  intro c c' same
  cases c <;> cases c' <;> first | rfl | exact absurd same (by decide)

theorem trim_name (c : ScheduleColumn) : Text.trim c.name = c.name := by
  cases c <;> decide

theorem mem_names (c : ScheduleColumn) : c.name ∈ ScheduleRecord.columns.names := by
  cases c <;> decide

end ScheduleColumn

/-- A column of a schedule file. -/
inductive FileColumn where
  /-- One that is read. -/
  | known (c : ScheduleColumn)
  /-- A further one. -/
  | further (name : String)

namespace FileColumn

/-- The name in the first record. -/
def name : FileColumn → String
  | .known c => c.name
  | .further name => name

/-- The column that is read. -/
def known? : FileColumn → Option ScheduleColumn
  | .known c => some c
  | .further _ => none

end FileColumn

/-- The text in a column, in a row with some texts in the columns that are read and some
texts in further columns, by position. -/
def FileColumn.cell (text : ScheduleColumn → String) (further : Nat → String) (position : Nat) :
    FileColumn → String
  | .known c => text c
  | .further _ => further position

/-- A row of a schedule file. -/
structure ScheduleRow where
  /-- The texts in the columns that are read. -/
  text : ScheduleColumn → String
  /-- The text in a further column, by position. -/
  further : Nat → String
  /-- What ends the row. -/
  lineEnd : Csv.LineEnd

/-- The order of the columns of a schedule file. -/
structure ScheduleLayout where
  /-- The columns. -/
  columns : List FileColumn
  /-- Each column that is read is there once. -/
  once : (columns.filterMap FileColumn.known?).Perm ScheduleColumn.all
  /-- No further column is named like one that is read. -/
  others : ∀ name, .further name ∈ columns → Text.trim name ∉ ScheduleRecord.columns.names

namespace ScheduleLayout

/-- The columns that are read, in order. -/
def plain : ScheduleLayout where
  columns := ScheduleColumn.all.map .known
  once := List.Perm.refl _
  others name further := by
    obtain ⟨c, -, known⟩ := List.mem_map.mp further
    cases known

instance : Inhabited ScheduleLayout := ⟨plain⟩

/-- The text of a file. -/
def file (layout : ScheduleLayout) (headerEnd : Csv.LineEnd) (rows : List ScheduleRow) : String :=
  Csv.write ((layout.columns.map FileColumn.name, headerEnd)
    :: rows.map fun row =>
      (layout.columns.mapIdx (FileColumn.cell row.text row.further), row.lineEnd))

end ScheduleLayout

namespace ScheduleRecord

/-- A text, trimmed, unless it is blank. -/
def shown (s : String) : Option String := if Text.isBlankText s then none else some (Text.trim s)

/-- The schedule line of the texts in a row. -/
def ofTexts (text : ScheduleColumn → String) : ScheduleRecord :=
  { category := Text.trim (text .category)
    description := Text.trim (text .description)
    value := (shown (text .value)).map Json.string
    securedCreditor := shown (text .securedCreditor)
    securedAmount := (shown (text .securedAmount)).map Json.string }

end ScheduleRecord

/-! ## Reading rows -/

namespace Csv

theorem texts?_toUtf8 (ss : List String) :
    texts? (ss.map Text.toUtf8) = some (ss.map Text.trim) := by
  have texts : (ss.map Text.toUtf8).mapM Text.ofUtf8? = some ss := by
    induction ss with
    | nil => rfl
    | cons s ss ih =>
      rw [List.map_cons, List.mapM_cons, Text.ofUtf8?_toUtf8, ih]
      rfl
  rw [texts?, texts, Option.map_some]

theorem firstAgain?_go_eq_none {names seen : List String} (once : names.Nodup)
    (new : ∀ name ∈ names, name ∉ seen) : firstAgain?.go seen names = none := by
  induction names generalizing seen with
  | nil => rfl
  | cons name names ih =>
    obtain ⟨first, others⟩ := List.forall_mem_cons.mp new
    obtain ⟨differ, once⟩ := List.nodup_cons.mp once
    rw [firstAgain?.go, if_neg (by simpa using first)]
    refine ih once fun other h => ?_
    rw [List.mem_cons, not_or]
    exact ⟨fun same => differ (same ▸ h), others other h⟩

/-- Names that differ hold none that occurred before. -/
theorem firstAgain?_eq_none {names : List String} (once : names.Nodup) : firstAgain? names = none :=
  firstAgain?_go_eq_none once fun _ _ => List.not_mem_nil

theorem Row.get?_cons_self (row : Row) (name text : String) :
    Row.get? ((name, text) :: row) name = some text := by
  simp [Row.get?]

theorem Row.get?_cons_of_ne {name other : String} (h : other ≠ name) (row : Row) (text : String) :
    Row.get? ((other, text) :: row) name = row.get? name := by
  rw [Row.get?, List.find?_cons_of_neg (by simpa using h), Row.get?]

/-- A record of texts is read under the names of the columns, if none that is asked for is
named twice and the required one is there. -/
theorem read_toUtf8 {columns : Columns} {header fields : List String}
    (width : fields.length = header.length)
    (once : ((header.map Text.trim).filter columns.names.contains).Nodup)
    (required : columns.required ∈ header.map Text.trim) (record : Nat) :
    columns.read (Header.ofFields (header.map Text.toUtf8)) record (fields.map Text.toUtf8)
      = .ok ((header.map Text.trim).zip (fields.map Text.trim)) := by
  rw [Columns.read, Header.ofFields, if_pos (by simpa using width), texts?_toUtf8, texts?_toUtf8]
  simp only [Columns.row, firstAgain?_eq_none once, List.contains_iff_mem.mpr required, if_true]

/-- Where each record reads as a row, so do all. -/
theorem readAll_map {α : Type} {columns : Columns} {header : Header} {items : List α}
    {fields : α → List Field} {row : α → Row}
    (reads : ∀ record, ∀ a ∈ items, columns.read header record (fields a) = .ok (row a))
    (record : Nat) :
    columns.readAll header record (items.map fields) = .ok (items.map row) := by
  induction items generalizing record with
  | nil => rfl
  | cons a items ih =>
    rw [List.map_cons, Columns.readAll, reads record a List.mem_cons_self,
      ih (fun record b hb => reads record b (List.mem_cons_of_mem a hb)) (record + 1)]
    rfl

end Csv

namespace ScheduleLayout

/-- No further column is named like one that is read. -/
def Apart (columns : List FileColumn) : Prop :=
  ∀ name, .further name ∈ columns → Text.trim name ∉ ScheduleRecord.columns.names

/-- The names of columns as they are read. -/
def names (columns : List FileColumn) : List String :=
  (columns.map FileColumn.name).map Text.trim

variable {columns : List FileColumn}

theorem Apart.tail {c : FileColumn} (h : Apart (c :: columns)) : Apart columns :=
  fun name further => h name (List.mem_cons_of_mem c further)

/-- Those names that are read belong to columns that are. -/
theorem filter_names (h : Apart columns) :
    (names columns).filter ScheduleRecord.columns.names.contains
      = (columns.filterMap FileColumn.known?).map ScheduleColumn.name := by
  induction columns with
  | nil => rfl
  | cons c columns ih =>
    have rest := ih h.tail
    rw [names] at rest ⊢
    rw [List.map_cons, List.map_cons]
    cases c with
    | known c =>
      have read : Text.trim (FileColumn.known c).name = c.name := c.trim_name
      rw [read, List.filter_cons_of_pos (List.contains_iff_mem.mpr c.mem_names), rest]
      rfl
    | further name =>
      have apart := h name List.mem_cons_self
      rw [List.filter_cons_of_neg (by rwa [List.contains_iff_mem]), rest]
      rfl

/-- A text is found by the name of its column. -/
theorem get?_row (h : Apart columns) {c : ScheduleColumn} (there : .known c ∈ columns)
    (text : ScheduleColumn → String) (further : Nat → String) :
    Csv.Row.get? ((names columns).zip
        ((columns.mapIdx (FileColumn.cell text further)).map Text.trim)) c.name
      = some (Text.trim (text c)) := by
  induction columns generalizing further with
  | nil => cases there
  | cons first columns ih =>
    rw [names, List.map_cons, List.map_cons, List.mapIdx_cons, List.map_cons, List.zip_cons_cons]
    by_cases here : first = .known c
    · subst here
      have named : Text.trim (FileColumn.known c).name = c.name := c.trim_name
      rw [named]
      exact Csv.Row.get?_cons_self _ _ _
    · have other : Text.trim first.name ≠ c.name := by
        intro same
        cases first with
        | known c' =>
          exact here (congrArg _ (ScheduleColumn.name_injective (c'.trim_name.symm.trans same)))
        | further name => exact h name List.mem_cons_self (same ▸ c.mem_names)
      have later := (List.mem_cons.mp there).resolve_left (Ne.symm here)
      have shifted : (fun i => FileColumn.cell text further (i + 1))
          = FileColumn.cell text fun i => further (i + 1) := by
        funext i c
        cases c <;> rfl
      rw [Csv.Row.get?_cons_of_ne other, shifted]
      exact ih h.tail later _

theorem mem_columns (layout : ScheduleLayout) (c : ScheduleColumn) :
    .known c ∈ layout.columns := by
  have all : c ∈ ScheduleColumn.all := by cases c <;> decide
  obtain ⟨column, there, known⟩ := List.mem_filterMap.mp (layout.once.mem_iff.mpr all)
  cases column with
  | known c' =>
    obtain rfl := Option.some.inj known
    exact there
  | further name => cases known

end ScheduleLayout

namespace ScheduleRecord

theorem filled?_eq_shown {row : Csv.Row} {name text : String}
    (h : row.get? name = some (Text.trim text)) : filled? row name = shown text := by
  rw [filled?, h, shown, Option.filter_some, Text.isBlankText_trim]
  cases Text.isBlankText text <;> rfl

/-- A line is read off its row by the names of the columns. -/
theorem ofRow_eq_ofTexts {row : Csv.Row} {text : ScheduleColumn → String}
    (h : ∀ c : ScheduleColumn, row.get? c.name = some (Text.trim (text c))) :
    ofRow row = ofTexts text := by
  have category : row.get? "Category" = _ := h .category
  have description : row.get? "Description" = _ := h .description
  have value : filled? row "Value" = _ := filled?_eq_shown (h .value)
  have creditor : filled? row "Secured Creditor" = _ := filled?_eq_shown (h .securedCreditor)
  have amount : filled? row "Secured Amount" = _ := filled?_eq_shown (h .securedAmount)
  rw [ofRow, category, description, value, creditor, amount]
  rfl

/-- A row of a file is read under the names of its columns. -/
theorem read_row (layout : ScheduleLayout) (row : ScheduleRow) (record : Nat) :
    columns.read (Csv.Header.ofFields ((layout.columns.map FileColumn.name).map Text.toUtf8)) record
        ((layout.columns.mapIdx (FileColumn.cell row.text row.further)).map Text.toUtf8)
      = .ok ((ScheduleLayout.names layout.columns).zip
          ((layout.columns.mapIdx (FileColumn.cell row.text row.further)).map Text.trim)) := by
  have once : ((ScheduleLayout.names layout.columns).filter columns.names.contains).Nodup := by
    rw [ScheduleLayout.filter_names layout.others, (layout.once.map _).nodup_iff]
    decide
  have required : columns.required ∈ ScheduleLayout.names layout.columns :=
    List.mem_map.mpr ⟨_, List.mem_map_of_mem (layout.mem_columns .category),
      ScheduleColumn.trim_name .category⟩
  exact Csv.read_toUtf8 (by simp) once required record

/-- A schedule file is imported as it was written, line by line. -/
theorem import_file (layout : ScheduleLayout) (headerEnd : Csv.LineEnd) (rows : List ScheduleRow) :
    ofCsv (Text.toUtf8 (layout.file headerEnd rows))
      = .ok (rows.map fun row => ofTexts row.text) := by
  have nonempty : layout.columns ≠ [] := List.ne_nil_of_mem (layout.mem_columns .category)
  have read := Csv.readAll_map (fun record row (_ : row ∈ rows) => read_row layout row record) 1
  have line (row : ScheduleRow) := ofRow_eq_ofTexts fun c =>
    ScheduleLayout.get?_row layout.others (layout.mem_columns c) row.text row.further
  rw [ofCsv, Csv.Columns.rows, ScheduleLayout.file, Csv.records_write]
  · rw [List.map_cons, List.map_map (l := rows)]
    refine (congrArg (Except.map _) read).trans (congrArg Except.ok ?_)
    exact List.map_map.trans (List.map_congr_left fun row _ => line row)
  · refine List.forall_mem_cons.mpr ⟨by simpa using nonempty, List.forall_mem_map.mpr ?_⟩
    intro row _
    simpa using nonempty

end ScheduleRecord

end EstateFiling
