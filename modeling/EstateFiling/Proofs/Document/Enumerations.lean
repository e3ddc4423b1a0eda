import EstateFiling.Proofs.Document.Lookups
import EstateFiling.Proofs.Document.Points

/-!
# Enumerations of a document

A document enumerates entries in two ways: as paragraphs with a letter in front, and as rows
of a table whose first column has no heading.  `DocumentContent.enumerations` reads both off
the page.  The paragraphs under one caption are one list, and the letters begin anew under
the next; the rows of one table are one list.  No paragraph with a letter is left out
(`DocumentContent.exists_mem_enumerations`).

Different positions have different markers (`Filler.letterMarker_injective`).  So a list
whose entries have the markers of their positions tells them apart
(`nodup_marks_lettered`), however long it is.

The lemmas for lines reduce a section to its lists: a line without a letter is passed over,
and the entries between two captions are a list unless there are none.
-/

namespace EstateFiling

/-! ## Markers -/

namespace Filler

theorem letter_injective :
    ∀ i < 26, ∀ j < 26, Char.ofNat (97 + i) = Char.ofNat (97 + j) → i = j := by decide

/-- Different positions have different markers: the length of a marker tells how often the
alphabet was gone through, and its letter the place in the alphabet. -/
theorem letterMarker_injective : Function.Injective letterMarker := by
  intro i j same
  have chars (n : Nat) : (letterMarker n).toList =
      '(' :: (List.replicate (n / 26 + 1) (Char.ofNat (97 + n % 26)) ++ [')']) := by
    simp [letterMarker, Text.repeated]
  have letters := congrArg String.toList same
  rw [chars, chars, List.cons_inj_right, List.append_left_inj, List.replicate_inj] at letters
  obtain ⟨rounds, letter⟩ := letters
  have place : i % 26 = j % 26 :=
    letter_injective _ (Nat.mod_lt i (by decide)) _ (Nat.mod_lt j (by decide))
      (letter.resolve_left (Nat.succ_ne_zero _))
  omega

end Filler

/-- Entries with the markers of their positions have different markers. -/
theorem nodup_marks_lettered (entries : List String) :
    ((lettered entries).map Line.mark).Nodup := by
  unfold lettered
  rw [map_mapIdx, mapIdx_of_position]
  exact List.nodup_range.map fun i j same =>
    Filler.letterMarker_injective (Option.some.inj same)

/-! ## Lists of lines -/

/-- A mark is a letter in parentheses, and not a number. -/
def isLetter (mark : String) : Bool := mark.toList.head? == some '('

/-- A line is an entry of a list: it has a letter in front. -/
def Line.isEntry (l : Line) : Bool := l.mark.any isLetter

/-- The lists that are not empty. -/
def nonempty {α : Type} (ls : List (List α)) : List (List α) := ls.filter fun l => !l.isEmpty

theorem nonempty_append {α : Type} (ls next : List (List α)) :
    nonempty (ls ++ next) = nonempty ls ++ nonempty next := List.filter_append ..

/-- The lists among lines: the entries of each point that has any. -/
def listsOf (ls : List Line) : List (List Line) :=
  nonempty ((pointsOf ls).map fun p => p.filter Line.isEntry)

/-- The lists of a section. -/
def Section.enumerations (s : Section) : List (List Line) := listsOf s.read

/-- The entry that a row is: its first cell is a letter. -/
def TableRow.item? (r : TableRow) : Option Line :=
  match r.cells with
  | [mark, text] => if isLetter mark then some ⟨some mark, text⟩ else none
  | _ => none

/-- The entries of a table, if its first column has no heading. -/
def Table.entries (t : Table) : List Line :=
  if t.header.head? = some "" then t.rows.filterMap TableRow.item? else []

/-- The lists of a document: those of its sections, and those of its tables. -/
def DocumentContent.enumerations (d : DocumentContent) : List (List Line) :=
  d.sections.flatMap Section.enumerations ++ nonempty (d.tables.map Table.entries)

/-- Lists of entries, marked list by list. -/
def marked (lists : List (List String)) : List (List Line) := (nonempty lists).map lettered

/-- The entry that a block is: a paragraph with a letter in front. -/
def Block.item? (b : Block) : Option Line := b.line?.filter Line.isEntry

/-! ## What the lists hold -/

/-- No entry is left out. -/
theorem flatten_listsOf (ls : List Line) : (listsOf ls).flatten = ls.filter Line.isEntry := by
  have points : (pointsOf ls).flatten = ls := List.flatten_splitBy _ ls
  unfold listsOf nonempty
  rw [List.flatten_filter_not_isEmpty, ← List.filter_flatten, points]

/-- A section none of whose blocks is an entry has no list. -/
theorem Section.enumerations_eq_nil {s : Section} (h : s.blocks.filterMap Block.item? = []) :
    s.enumerations = [] := by
  have noEntry : (listsOf s.read).flatten = [] := by
    rw [flatten_listsOf, Section.read, List.filter_filterMap]
    exact h
  refine List.eq_nil_iff_forall_not_mem.mpr fun list hlist => ?_
  have nonempty : list.isEmpty = false := by simpa using (List.mem_filter.mp hlist).2
  rw [List.flatten_eq_nil_iff.mp noEntry list hlist] at nonempty
  cases nonempty

/-- Every paragraph with a letter is in one of the lists. -/
theorem DocumentContent.exists_mem_enumerations {d : DocumentContent} {s : Section}
    (hs : s ∈ d.sections) {l : Line} (hl : l ∈ s.read) (entry : l.isEntry = true) :
    ∃ list ∈ d.enumerations, l ∈ list := by
  have held : l ∈ (listsOf s.read).flatten := by
    rw [flatten_listsOf]
    exact List.mem_filter.mpr ⟨hl, entry⟩
  obtain ⟨list, hlist, mem⟩ := List.mem_flatten.mp held
  exact ⟨list, List.mem_append_left _ (List.mem_flatMap.mpr ⟨s, hs, hlist⟩), mem⟩

theorem isEntry_of_mem_lettered {entries : List String} :
    ∀ l ∈ lettered entries, l.isEntry = true := by
  intro l hl
  obtain ⟨i, _, rfl⟩ := List.mem_mapIdx.mp hl
  simp [Line.isEntry, isLetter, Filler.letterMarker]

theorem filter_lettered (entries : List String) :
    (lettered entries).filter Line.isEntry = lettered entries :=
  List.filter_eq_self.mpr isEntry_of_mem_lettered

/-- The word for an empty list is no entry. -/
theorem filter_listed (entries : List String) :
    (listed entries).filter Line.isEntry = lettered entries := by
  unfold listed
  split
  · rename_i empty
    rw [empty]
    rfl
  · exact filter_lettered entries

/-- A caption is no entry. -/
theorem isEntry_of_isNumber {number : String} (h : isNumber number = true) (text : String) :
    (Line.mk (some number) text).isEntry = false := by
  rw [Line.isEntry, Option.any_some, isLetter, beq_eq_false_iff_ne]
  intro letter
  rw [isNumber, letter] at h
  cases h

@[simp] theorem marked_nil : marked [] = [] := rfl

/-- A list with entries has lines, and an empty one has none. -/
theorem nonempty_map_lettered (lists : List (List String)) :
    nonempty (lists.map lettered) = marked lists := by
  have same (entries : List String) : (lettered entries).isEmpty = entries.isEmpty := by
    cases entries <;> simp [lettered]
  unfold nonempty marked
  rw [List.filter_map]
  simp only [Function.comp_def, same]
  rfl

theorem marked_append (ls next : List (List String)) :
    marked (ls ++ next) = marked ls ++ marked next := by
  unfold marked
  rw [nonempty_append, List.map_append]

theorem marked_flatMap {α : Type} (lists : α → List (List String)) (xs : List α) :
    marked (xs.flatMap lists) = xs.flatMap fun a => marked (lists a) := by
  unfold marked nonempty
  rw [List.filter_flatMap, List.map_flatMap]

/-- Each list that is marked tells its entries apart. -/
theorem nodup_marks_of_mem_marked {lists : List (List String)} :
    ∀ list ∈ marked lists, (list.map Line.mark).Nodup := by
  intro list hlist
  obtain ⟨entries, _, rfl⟩ := List.mem_map.mp hlist
  exact nodup_marks_lettered entries

/-- A document without a table enumerates what its sections do. -/
theorem DocumentContent.enumerations_of_sections {d : DocumentContent}
    (plain : ∀ t ∈ d.tables, t.entries = []) :
    d.enumerations = d.sections.flatMap Section.enumerations := by
  have tables : nonempty (d.tables.map Table.entries) = [] := by
    refine List.filter_eq_nil_iff.mpr fun list hlist => ?_
    obtain ⟨t, ht, rfl⟩ := List.mem_map.mp hlist
    rw [plain t ht]
    decide
  unfold enumerations
  rw [tables, List.append_nil]

/-! ## Lists line by line -/

@[simp] theorem listsOf_nil : listsOf [] = [] := rfl

/-- The entries under a caption are a list of their own. -/
theorem listsOf_append {ls next : List Line} (h : ∀ l ∈ next.head?, l.isCaption = true) :
    listsOf (ls ++ next) = listsOf ls ++ listsOf next := by
  unfold listsOf
  rw [pointsOf_append h, List.map_append, nonempty_append]

/-- Without a caption after the first line there is at most one list. -/
theorem listsOf_eq {ls : List Line} (h : ∀ l ∈ ls.tail, l.isCaption = false) :
    listsOf ls = nonempty [ls.filter Line.isEntry] := by
  cases ls with
  | nil => rfl
  | cons first rest =>
    have one : pointsOf (first :: rest) = [first :: rest] := pointsOf_cons h
    unfold listsOf
    rw [one, List.map_singleton]

/-- A line without a letter is passed over. -/
theorem listsOf_cons {l : Line} (other : l.isEntry = false) (ls : List Line) :
    listsOf (l :: ls) = listsOf ls := by
  -- The lines up to the next caption stand in the same point as the line.
  obtain ⟨under, next, rfl, here, after⟩ : ∃ under next, ls = under ++ next
      ∧ (∀ l ∈ under, l.isCaption = false) ∧ ∀ l ∈ next.head?, l.isCaption = true := by
    refine ⟨ls.takeWhile fun l => !l.isCaption, ls.dropWhile fun l => !l.isCaption,
      List.takeWhile_append_dropWhile.symm, fun l hl => ?_, fun l hl => ?_⟩
    · simpa using List.mem_takeWhile_imp hl
    · have first := List.head?_dropWhile_not (fun l : Line => !l.isCaption) ls
      rw [Option.mem_def.mp hl] at first
      simpa using first
  have same : listsOf (l :: under) = listsOf under := by
    have whole : listsOf (l :: under) = nonempty [(l :: under).filter Line.isEntry] :=
      listsOf_eq here
    rw [whole, listsOf_eq fun l hl => here l (List.mem_of_mem_tail hl),
      List.filter_cons_of_neg (by simp [other])]
  rw [← List.cons_append, listsOf_append after, listsOf_append after, same]

@[simp] theorem listsOf_unmarked (text : String) (ls : List Line) :
    listsOf (⟨none, text⟩ :: ls) = listsOf ls := listsOf_cons rfl ls

theorem listsOf_caption {number : String} (h : isNumber number = true) (text : String)
    (ls : List Line) : listsOf (⟨some number, text⟩ :: ls) = listsOf ls :=
  listsOf_cons (isEntry_of_isNumber h text) ls

/-- The entries under one caption and before the next are a list. -/
theorem listsOf_under {number : String} (h : isNumber number = true) {under : List Line}
    (here : ∀ l ∈ under, l.isCaption = false) {entries : List String}
    (letters : under.filter Line.isEntry = lettered entries) (text : String) (ls : List Line) :
    listsOf (under ++ ⟨some number, text⟩ :: ls) = marked [entries] ++ listsOf ls := by
  have next : ∀ l ∈ (Line.mk (some number) text :: ls).head?, l.isCaption = true := by
    intro l hl
    obtain rfl : ⟨some number, text⟩ = l := Option.some.inj hl
    exact h
  rw [listsOf_append next, listsOf_caption h,
    listsOf_eq fun l hl => here l (List.mem_of_mem_tail hl), letters]
  exact congrArg (· ++ listsOf ls) (nonempty_map_lettered [entries])

theorem listsOf_lettered {number : String} (h : isNumber number = true) (entries : List String)
    (text : String) (ls : List Line) :
    listsOf (lettered entries ++ ⟨some number, text⟩ :: ls) = marked [entries] ++ listsOf ls :=
  listsOf_under h isCaption_of_mem_lettered (filter_lettered entries) text ls

theorem listsOf_listed {number : String} (h : isNumber number = true) (entries : List String)
    (text : String) (ls : List Line) :
    listsOf (listed entries ++ ⟨some number, text⟩ :: ls) = marked [entries] ++ listsOf ls :=
  listsOf_under h isCaption_of_mem_listed (filter_listed entries) text ls

end EstateFiling
