import EstateFiling.Document.Compose
import EstateFiling.Proofs.Money.Currency
import Mathlib.Data.List.Forall2

/-!
# Tables read back

What a printed table says to someone who reads the amounts off the page.  A table
*lists* a collection when its body has a row for each item, in order, or a single
row that says there are none, and a last row holds the sums of the columns that are
read back (`Table.Lists`).
-/

namespace EstateFiling

/-! ## Amounts on the page -/

/-- The amount that a row writes in a column. -/
def TableRow.amount? (r : TableRow) (column : Nat) : Option Money :=
  (r.cells[column]?).bind Money.parse?

namespace Table

/-- The amounts that the body writes in a column, row by row. -/
def amounts (t : Table) (column : Nat) : List Money :=
  t.bodyRows.filterMap (fun r => r.amount? column)

/-- The amount that the last row writes in a column. -/
def lastAmount? (t : Table) (column : Nat) : Option Money :=
  t.rows.getLast?.bind (fun r => r.amount? column)

/-- The table lists a collection of items, each as a row shows it, and sums up some
columns. -/
structure Lists {α : Type} (t : Table) (items : List α) (shows : TableRow → α → Prop)
    (columns : List Nat) : Prop where
  /-- The body has one row for each item, in order. -/
  each : items ≠ [] → List.Forall₂ shows t.bodyRows items
  /-- Without items the body is one row that says so. -/
  blank : items = [] →
    t.bodyRows.map TableRow.cells = [Compose.noneText :: List.replicate (t.header.length - 1) ""]
  /-- After the body there is one more row, the subtotal. -/
  subtotal : ∃ r, t.rows = t.bodyRows ++ [r] ∧ r.cells.head? = some "Subtotal"
  /-- The subtotal of a column is the sum of its amounts. -/
  sums : ∀ c ∈ columns, t.lastAmount? c = some (Money.sum (t.amounts c))

end Table

/-- The amount under a column of the first table with an identifier. -/
def DocumentContent.subtotal? (d : DocumentContent) (id : String) (column : Nat) : Option Money :=
  (d.table? id).bind (fun t => t.lastAmount? column)

theorem TableRow.amount?_of_cell {r : TableRow} {column : Nat} {m : Money}
    (cell : r.cells[column]? = some m.currency) (h : 0 ≤ m.cents) :
    r.amount? column = some m := by
  unfold amount?
  rw [cell, Option.bind_some, Money.parse?_currency h]

/-- The amounts of rows that show items are those of the items. -/
theorem filterMap_amount?_of_shows {α : Type} {rows : List TableRow} {items : List α}
    {column : Nat} {amount : α → Option Money}
    (h : List.Forall₂ (fun r a => r.amount? column = amount a) rows items) :
    rows.filterMap (fun r => r.amount? column) = items.filterMap amount := by
  induction h with
  | nil => rfl
  | cons same _ ih =>
    rw [List.filterMap_cons, List.filterMap_cons, same, ih]

namespace Table

variable {α : Type} {t : Table} {items : List α} {shows : TableRow → α → Prop}
  {columns : List Nat} {column : Nat}

/-- The amounts in a column of a table that lists items are those of the items. -/
theorem amounts_eq_filterMap {amount : α → Option Money} (right : 0 < column)
    (each : items ≠ [] → List.Forall₂ shows t.bodyRows items)
    (blank : items = [] →
      t.bodyRows.map TableRow.cells = [Compose.noneText :: List.replicate (t.header.length - 1) ""])
    (read : ∀ r a, shows r a → r.amount? column = amount a) :
    t.amounts column = items.filterMap amount := by
  by_cases empty : items = []
  · -- The row that stands in for the items has no amount.
    obtain ⟨r, hr, cells⟩ := List.map_eq_singleton_iff.mp (blank empty)
    obtain ⟨column, rfl⟩ := Nat.exists_eq_succ_of_ne_zero right.ne'
    have noAmount : r.amount? (column + 1) = none := by
      unfold TableRow.amount?
      rw [cells, List.getElem?_cons_succ, List.getElem?_replicate]
      split
      · exact Money.parse?_empty
      · rfl
    unfold amounts
    rw [hr, empty, List.filterMap_cons]
    simp only [noAmount, List.filterMap_nil]
  · exact filterMap_amount?_of_shows ((each empty).imp read)

end Table

/-! ## Numbered paragraphs -/

/-- The text of a paragraph that has the given number. -/
def Block.statement? (number : String) : Block → Option String
  | .paragraph p => if p.number = some number then some p.text else none
  | _ => none

/-- The texts of the paragraphs with a number. -/
def DocumentContent.statements (d : DocumentContent) (number : String) : List String :=
  d.blocks.filterMap (Block.statement? number)

theorem DocumentContent.statements_eq (d : DocumentContent) (number : String) :
    d.statements number =
      d.sections.flatMap fun s => s.blocks.filterMap (Block.statement? number) := by
  unfold statements blocks
  rw [List.filterMap_flatMap]

namespace Compose

variable (style : StyleProfile) (number : String)

theorem statement?_numbered (n text : String) :
    (numbered style n text).statement? number =
      if n = number then some (n ++ " " ++ text) else none := by
  simp [numbered, numberedAt, runs, run, Block.statement?, Paragraph.text, String.join]

/-- A paragraph without a number. -/
theorem statement?_runs (rs : List Run) (o : ParagraphOptions) :
    (runs style none rs o).statement? number = none := by
  simp [runs, Block.statement?]

theorem statement?_passage {Facts : Type} (t : ClauseTable Facts) (facts : Facts)
    (options : List (String × String)) (caption : Option String) :
    (passage style t facts options caption).statement? number = none := rfl

end Compose

end EstateFiling
