import EstateFiling.Proofs.Document.Choice
import Mathlib.Data.List.Forall2

/-!
# Documents without the wording of unchecked boxes

A document asserts what it prints, except that the label of a box which is not
checked asserts nothing.  The *redaction* of a document blanks those labels and
keeps everything else.  Two documents have the same redaction when they agree
block by block and box by box, up to the labels of boxes that are unchecked in
both (`DocumentContent.redacted_eq_iff` down to `CheckboxOption.redacted_eq_iff`).

Redacting a choice comes to blanking the wording of the clauses that are not
active (`Compose.redacted_choice`).  So the redaction of a passage depends on the
estate through the selection and through the wording of the active clause alone.
-/

namespace EstateFiling

/-! ## Redaction -/

/-- The box, with its label only when it is checked. -/
def CheckboxOption.redacted (o : CheckboxOption) : CheckboxOption :=
  if o.checked then o else { o with label := "" }

/-- The group with its boxes redacted. -/
def CheckboxGroup.redacted (g : CheckboxGroup) : CheckboxGroup :=
  { g with options := g.options.map CheckboxOption.redacted }

/-- The block, with its boxes redacted when it is a group of boxes. -/
def Block.redacted : Block → Block
  | .checkboxes g => .checkboxes g.redacted
  | b => b

/-- The section with its blocks redacted. -/
def Section.redacted (s : Section) : Section := { s with blocks := s.blocks.map Block.redacted }

/-- The document with its sections redacted. -/
def DocumentContent.redacted (d : DocumentContent) : DocumentContent :=
  { d with sections := d.sections.map Section.redacted }

/-! ## What redaction keeps -/

/-- Boxes have the same redaction when they differ at most in the labels of
unchecked boxes. -/
theorem CheckboxOption.redacted_eq_iff {o p : CheckboxOption} :
    o.redacted = p.redacted ↔
      o.id = p.id ∧ o.checked = p.checked ∧ o.glyph = p.glyph ∧
        (o.checked = true → o.label = p.label) := by
  obtain ⟨id, label, checked, glyph⟩ := o
  obtain ⟨id', label', checked', glyph'⟩ := p
  cases checked <;> cases checked' <;> simp [redacted]
  tauto

/-- Lists of images are equal when the images are equal one by one. -/
theorem map_eq_map_iff_forall₂ {α β : Type} {f : α → β} {xs ys : List α} :
    xs.map f = ys.map f ↔ List.Forall₂ (fun x y => f x = f y) xs ys := by
  rw [← List.forall₂_eq_eq_eq, List.forall₂_map_left_iff, List.forall₂_map_right_iff]

/-- Groups have the same redaction when their boxes do, one by one. -/
theorem CheckboxGroup.redacted_eq_iff {g h : CheckboxGroup} :
    g.redacted = h.redacted ↔
      g.id = h.id ∧ g.caption = h.caption ∧ g.indent = h.indent ∧ g.size = h.size ∧
        List.Forall₂ (fun o p => o.redacted = p.redacted) g.options h.options := by
  rw [← map_eq_map_iff_forall₂]
  obtain ⟨id, caption, options, indent, size⟩ := g
  obtain ⟨id', caption', options', indent', size'⟩ := h
  simp only [redacted, CheckboxGroup.mk.injEq]
  tauto

/-- Blocks have the same redaction when they are equal or two groups of boxes with
the same redaction. -/
theorem Block.redacted_eq_iff {b c : Block} :
    b.redacted = c.redacted ↔
      b = c ∨ ∃ g h, b = .checkboxes g ∧ c = .checkboxes h ∧ g.redacted = h.redacted := by
  constructor
  · intro same
    cases b <;> cases c <;> simp_all [redacted]
  · rintro (rfl | ⟨g, h, rfl, rfl, same⟩)
    · rfl
    · exact congrArg Block.checkboxes same

/-- Sections have the same redaction when their blocks do, one by one. -/
theorem Section.redacted_eq_iff {s t : Section} :
    s.redacted = t.redacted ↔
      s.id = t.id ∧ s.heading = t.heading ∧
        List.Forall₂ (fun b c => b.redacted = c.redacted) s.blocks t.blocks := by
  unfold redacted
  rw [Section.mk.injEq, map_eq_map_iff_forall₂]

/-- Documents have the same redaction when their sections do, one by one. -/
theorem DocumentContent.redacted_eq_iff {d e : DocumentContent} :
    d.redacted = e.redacted ↔
      d.kind = e.kind ∧ d.title = e.title ∧ d.style = e.style ∧
        List.Forall₂ (fun s t => s.redacted = t.redacted) d.sections e.sections := by
  unfold redacted
  rw [DocumentContent.mk.injEq, map_eq_map_iff_forall₂]

/-! ## Redacted choices -/

namespace Compose

/-- The options of a choice, with the wording of the active clause only. -/
def asserted (selection : ClauseSelection) (options : List (String × String)) :
    List (String × String) :=
  options.map fun (id, label) => (id, if selection.isActive id then label else "")

/-- Redacting a choice leaves the wording of the active clause only. -/
theorem redacted_choice (style : StyleProfile) (id : String) (caption : Option String)
    (selection : ClauseSelection) (options : List (String × String)) :
    (choice style id caption selection options).redacted =
      choice style id caption selection (asserted selection options) := by
  rw [choice_eq, choice_eq]
  simp only [Block.redacted, CheckboxGroup.redacted, choiceGroup, asserted, List.map_map]
  congr 2
  refine List.map_congr_left fun p _ => ?_
  obtain ⟨name, label⟩ := p
  cases h : selection.isActive name <;>
    simp [CheckboxOption.redacted, option, h]

/-- Passages of one table have the same redaction when the same clause is active,
with the same wording. -/
theorem redacted_passage_congr {Facts : Type} (style : StyleProfile) {t : ClauseTable Facts}
    {facts facts' : Facts} {selection : ClauseSelection} (caption : Option String)
    (options options' : List (String × String)) (left : t.select facts = selection)
    (right : t.select facts' = selection)
    (worded : asserted selection options = asserted selection options') :
    (passage style t facts options caption).redacted =
      (passage style t facts' options' caption).redacted := by
  unfold passage
  rw [redacted_choice, redacted_choice, left, right, worded]

end Compose

end EstateFiling
