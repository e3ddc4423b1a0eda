import EstateFiling.Proofs.Document.Blocks
import EstateFiling.Proofs.Text.Digits
import Mathlib.Data.List.SplitBy
import Mathlib.Data.List.TakeWhile

/-!
# Points of a section

A form goes from point to point.  A *point* is a paragraph with a number in front, its
caption, and the paragraphs up to the next number: entries marked with letters, or
paragraphs without a mark.  `Section.points` takes a section apart at the numbers, and
`Section.under?` reads what stands under a caption.

A section that is composed of points is taken apart into them (`pointsOf_flatten`).
Entries are marked with letters in parentheses, so none of
them is mistaken for a caption (`isCaption_of_mem_lettered`), and the word for an empty
list has no mark, so none of them is mistaken for it (`noneLine_mem_listed_iff`).
-/

namespace EstateFiling

/-! ## Lines -/

/-- A paragraph as it reads. -/
structure Line where
  /-- The number or marker in front. -/
  mark : Option String
  /-- The text. -/
  text : String
deriving DecidableEq, Repr

/-- A mark is a number, and not a letter. -/
def isNumber (mark : String) : Bool := mark.toList.head?.any Char.isDigit

theorem isNumber_toString_append (n : Nat) (rest : String) :
    isNumber (toString n ++ rest) = true := by
  unfold isNumber
  rw [String.toList_append]
  exact Text.any_isDigit_head?_toString n _

/-- A line begins a point: it has a number in front. -/
def Line.isCaption (l : Line) : Bool := l.mark.any isNumber

/-- The line that a block is. -/
def Block.line? : Block → Option Line
  | .paragraph p => some ⟨p.number, String.join (p.runs.map Run.text)⟩
  | _ => none

/-- The lines of a section. -/
def Section.read (s : Section) : List Line := s.blocks.filterMap Block.line?

/-! ## Points -/

/-- Lines, taken apart before each caption. -/
def pointsOf (ls : List Line) : List (List Line) := ls.splitBy fun _ next => !next.isCaption

/-- The points of a section, after the lines in front of the first. -/
def Section.points (s : Section) : List (List Line) := pointsOf s.read

/-- What stands under the first caption with a number and a text. -/
def Section.under? (s : Section) (number caption : String) : Option (List Line) :=
  (s.points.find? fun p => p.head? == some ⟨some number, caption⟩).map List.tail

/-- A caption, and lines none of which is one. -/
def IsPoint : List Line → Prop
  | [] => False
  | caption :: under => caption.isCaption = true ∧ ∀ l ∈ under, l.isCaption = false

/-- What begins with a caption is not joined to what stands in front. -/
theorem pointsOf_append {ls next : List Line} (h : ∀ l ∈ next.head?, l.isCaption = true) :
    pointsOf (ls ++ next) = pointsOf ls ++ pointsOf next :=
  List.splitBy_append fun _ _ l hl => by rw [h l hl]; rfl

/-- Lines none of which is a caption after the first stay together. -/
theorem isChain_of_entries {first : Line} {ls : List Line} (h : ∀ l ∈ ls, l.isCaption = false) :
    (first :: ls).IsChain fun _ next => (!next.isCaption) = true := by
  induction ls generalizing first with
  | nil => exact .singleton first
  | cons next ls ih =>
    obtain ⟨here, rest⟩ := List.forall_mem_cons.mp h
    exact .cons_cons (by rw [here]; rfl) (ih rest)

theorem pointsOf_cons {first : Line} {ls : List Line} (h : ∀ l ∈ ls, l.isCaption = false) :
    pointsOf (first :: ls) = [first :: ls] :=
  List.splitBy_of_isChain (List.cons_ne_nil _ _) (isChain_of_entries h)

theorem IsPoint.pointsOf {p : List Line} (h : IsPoint p) : pointsOf p = [p] := by
  cases p with
  | nil => exact h.elim
  | cons caption under => exact pointsOf_cons h.2

/-- Points begin with a caption. -/
theorem isCaption_head?_flatten {ps : List (List Line)} (h : ∀ p ∈ ps, IsPoint p) :
    ∀ l ∈ ps.flatten.head?, l.isCaption = true := by
  intro l hl
  match ps, h with
  | [], _ => cases hl
  | [] :: _, h => exact (h [] List.mem_cons_self).elim
  | (caption :: under) :: _, h =>
    obtain rfl : caption = l := Option.some.inj hl
    exact (h _ List.mem_cons_self).1

/-- Lines composed of points are taken apart into them. -/
theorem pointsOf_flatten {ps : List (List Line)} (h : ∀ p ∈ ps, IsPoint p) :
    pointsOf ps.flatten = ps := by
  induction ps with
  | nil => rfl
  | cons p ps ih =>
    obtain ⟨point, rest⟩ := List.forall_mem_cons.mp h
    rw [List.flatten_cons, pointsOf_append (isCaption_head?_flatten rest), ih rest,
      point.pointsOf]
    rfl

/-! ## What stands under a caption -/

/-- The lines of a section from a number on. -/
def Section.from (s : Section) (number : String) : List Line :=
  s.read.dropWhile fun l => l.mark != some number

/-- A section goes on from a number with the paragraph that has it. -/
theorem isCaption_head?_from (s : Section) {number : String} (h : isNumber number = true) :
    ∀ l ∈ (s.from number).head?, l.isCaption = true := by
  intro l hl
  have first := List.head?_dropWhile_not (fun l : Line => l.mark != some number) s.read
  rw [show (s.read.dropWhile _).head? = some l from hl] at first
  have marked : l.mark = some number := by simpa using first
  rw [Line.isCaption, marked, Option.any_some, h]

/-- Between two numbers stands a caption and what is under it. -/
theorem Section.under?_eq {s : Section} {number next caption : String} {under : List Line}
    (lines : s.from number = ⟨some number, caption⟩ :: under ++ s.from next)
    (numbers : isNumber number = true ∧ isNumber next = true)
    (entries : ∀ l ∈ under, l.isCaption = false) : s.under? number caption = some under := by
  have read : s.read =
      (s.read.takeWhile fun l => l.mark != some number)
        ++ (⟨some number, caption⟩ :: under ++ s.from next) := by
    rw [← lines]
    exact List.takeWhile_append_dropWhile.symm
  -- The caption is not found in front, where its number does not stand.
  have front : (pointsOf (s.read.takeWhile fun l => l.mark != some number)).find?
      (fun p => p.head? == some ⟨some number, caption⟩) = none := by
    refine List.find?_eq_none.mpr fun p hp begins => ?_
    have mem := List.mem_flatten_of_mem hp (List.mem_of_mem_head? (eq_of_beq begins))
    rw [pointsOf, List.flatten_splitBy] at mem
    simpa using List.mem_takeWhile_imp mem
  have caption_first : ∀ l ∈ (Line.mk (some number) caption :: under ++ s.from next).head?,
      l.isCaption = true := by
    intro l hl
    obtain rfl : ⟨some number, caption⟩ = l := Option.some.inj hl
    exact numbers.1
  unfold Section.under? Section.points
  rw [read, pointsOf_append caption_first, pointsOf_append (isCaption_head?_from s numbers.2),
    pointsOf_cons entries, List.find?_append, front]
  simp

/-! ## Enumerations -/

/-- Entries marked with letters. -/
def lettered (entries : List String) : List Line :=
  entries.mapIdx fun i entry => ⟨some (Filler.letterMarker i), entry⟩

/-- The word for an empty list, without a mark. -/
def noneLine : Line := ⟨none, Compose.noneText⟩

/-- Entries marked with letters, or the word for an empty list. -/
def listed (entries : List String) : List Line :=
  if entries = [] then [noneLine] else lettered entries

theorem isCaption_letter (i : Nat) (s : String) :
    (Line.mk (some (Filler.letterMarker i)) s).isCaption = false := by
  simp [Line.isCaption, isNumber, Filler.letterMarker]

/-- An entry is no caption. -/
theorem isCaption_of_mem_lettered {entries : List String} :
    ∀ l ∈ lettered entries, l.isCaption = false := by
  intro l hl
  obtain ⟨i, _, rfl⟩ := List.mem_mapIdx.mp hl
  exact isCaption_letter i _

theorem isCaption_of_mem_listed {entries : List String} :
    ∀ l ∈ listed entries, l.isCaption = false := by
  unfold listed
  split
  · exact List.forall_mem_singleton.mpr rfl
  · exact isCaption_of_mem_lettered

/-- A number is looked for behind lines none of which is a caption. -/
theorem dropWhile_entries {number : String} (h : isNumber number = true) {ls : List Line}
    (entries : ∀ l ∈ ls, l.isCaption = false) (after : List Line) :
    (ls ++ after).dropWhile (fun l => l.mark != some number) =
      after.dropWhile fun l => l.mark != some number := by
  refine List.dropWhile_append_of_pos fun l hl => ?_
  have entry := entries l hl
  rw [bne_iff_ne]
  intro same
  rw [Line.isCaption, same, Option.any_some, h] at entry
  cases entry

theorem dropWhile_lettered {number : String} (h : isNumber number = true)
    (entries : List String) (after : List Line) :
    (lettered entries ++ after).dropWhile (fun l => l.mark != some number) =
      after.dropWhile fun l => l.mark != some number :=
  dropWhile_entries h isCaption_of_mem_lettered after

theorem dropWhile_listed {number : String} (h : isNumber number = true)
    (entries : List String) (after : List Line) :
    (listed entries ++ after).dropWhile (fun l => l.mark != some number) =
      after.dropWhile fun l => l.mark != some number :=
  dropWhile_entries h isCaption_of_mem_listed after

/-- The word for an empty list stands where no entry does. -/
theorem noneLine_mem_listed_iff {entries : List String} :
    noneLine ∈ listed entries ↔ ∀ l ∈ listed entries, l.mark = none := by
  cases entries with
  | nil => exact iff_of_true List.mem_cons_self (List.forall_mem_singleton.mpr rfl)
  | cons entry rest =>
    refine iff_of_false (fun mem => ?word) (fun unmarked => ?entry)
    case word =>
      obtain ⟨i, _, same⟩ := List.mem_mapIdx.mp mem
      exact Option.some_ne_none _ (congrArg Line.mark same)
    case entry =>
      exact Option.some_ne_none _ (unmarked ⟨some (Filler.letterMarker 0), entry⟩ (by
        simp [listed, lettered, List.mapIdx_cons]))

/-! ## Composed blocks -/

namespace Compose

variable (style : StyleProfile)

@[simp] theorem line?_numberedAt (number s : String) (indent : UInt16) :
    (numberedAt style number s indent).line? = some ⟨some number, s⟩ := by
  show some (Line.mk (some number) ("" ++ s)) = _
  rw [String.empty_append]

@[simp] theorem line?_numbered (number s : String) :
    (numbered style number s).line? = some ⟨some number, s⟩ := line?_numberedAt style number s 0

@[simp] theorem line?_paragraph (s : String) (o : ParagraphOptions) :
    (paragraph style s o).line? = some ⟨none, s⟩ := by
  show some (Line.mk none ("" ++ s)) = _
  rw [String.empty_append]

@[simp] theorem line?_text (s : String) : (text style s).line? = some ⟨none, s⟩ :=
  line?_paragraph style s {}

@[simp] theorem line?_title (s : String) : (title style s).line? = some ⟨none, s⟩ := by
  show some (Line.mk none ("" ++ s)) = _
  rw [String.empty_append]

@[simp] theorem line?_small (s : String) (o : ParagraphOptions) :
    (small style s o).line? = some ⟨none, s⟩ := by
  show some (Line.mk none ("" ++ s)) = _
  rw [String.empty_append]

@[simp] theorem line?_passage {Facts : Type} (t : ClauseTable Facts) (facts : Facts)
    (options : List (String × String)) (caption : Option String) :
    (passage style t facts options caption).line? = none := rfl

@[simp] theorem line?_jurat (place : String) (date : Option Date) (deponents : List String) :
    (jurat style place date deponents).line? = none := rfl

@[simp] theorem lines_enumeration (entries : List String) (indent : UInt16) :
    (enumeration style entries indent).filterMap Block.line? = lettered entries :=
  filterMap_mapIdx (fun i entry => line?_numberedAt style (Filler.letterMarker i) entry indent) _

@[simp] theorem lines_enumerationOrNone (entries : List String) :
    (enumerationOrNone style entries).filterMap Block.line? = listed entries := by
  unfold enumerationOrNone listed
  cases entries with
  | nil => exact List.filterMap_cons_some (line?_paragraph style noneText _)
  | cons entry rest => exact lines_enumeration style (entry :: rest) 1

end Compose

end EstateFiling
