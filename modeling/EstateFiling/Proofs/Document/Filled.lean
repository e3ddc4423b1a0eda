import EstateFiling.Document.Filler
import EstateFiling.Proofs.Text.Trimming

/-!
# Texts with something in them

A text is *filled* when trimming leaves something of it.  It is when a part of it is
(`Text.filled_append`), so a printed text is filled as soon as its first words are, which a
look at their first character shows (`Text.filled_of_head`).  What stands in for a missing
answer is filled too (`Filler.filled_orDots`).
-/

namespace EstateFiling

namespace Text

/-- Trimming leaves something of a text. -/
def Filled (s : String) : Prop := trim s ≠ ""

theorem filled_iff {s : String} : Filled s ↔ isBlankText s = false := by
  rw [Filled, ← isEmpty_trim, ne_eq, ← String.isEmpty_iff, Bool.not_eq_true]

instance (s : String) : Decidable (Filled s) := inferInstanceAs (Decidable (trim s ≠ ""))

/-- A text is filled when it does not begin with a blank. -/
theorem filled_of_head {c : Char} {cs : List Char} (h : isBlank c = false) :
    Filled (String.ofList (c :: cs)) := by
  rw [filled_iff, isBlankText, String.toList_ofList, List.all_cons, h, Bool.false_and]

theorem filled_append {s t : String} : Filled (s ++ t) ↔ Filled s ∨ Filled t := by
  simp only [filled_iff, isBlankText, String.toList_append, List.all_append, Bool.and_eq_false_iff]

theorem Filled.append {s : String} (h : Filled s) (t : String) : Filled (s ++ t) :=
  filled_append.mpr (.inl h)

theorem filled_trim {s : String} : Filled (trim s) ↔ Filled s := by
  rw [Filled, trim_trim, Filled]

/-- What is trimmed is filled unless nothing is left. -/
theorem filled_iff_of_trimmed {s : String} (h : trim s = s) : Filled s ↔ s ≠ "" := by
  rw [Filled, h]

theorem filled_of_mem_trimmedNonBlank {part : String} {parts : List String}
    (h : part ∈ trimmedNonBlank parts) : Filled part := by
  obtain ⟨kept, nonempty⟩ := List.mem_filter.mp h
  obtain ⟨s, _, rfl⟩ := List.mem_map.mp kept
  rw [filled_trim]
  simpa [Filled, String.isEmpty_iff] using nonempty

theorem filled_repeated {c : Char} (h : isBlank c = false) {count : Nat} (hcount : 0 < count) :
    Filled (repeated c count) := by
  obtain ⟨count, rfl⟩ := Nat.exists_eq_add_one_of_ne_zero hcount.ne'
  exact filled_of_head h

end Text

namespace Filler

theorem filled_dots {width : Nat} (h : 0 < width) : Text.Filled (dots width) :=
  Text.filled_repeated rfl h

/-- What is printed for a text is filled. -/
theorem filled_orDots (text : String) {width : Nat} (h : 0 < width) :
    Text.Filled (orDots text width) := by
  show Text.Filled (if (Text.trim text).isEmpty then dots width else Text.trim text)
  split
  case isTrue => exact filled_dots h
  case isFalse nonempty =>
    rw [Text.filled_trim]
    exact fun empty => nonempty (String.isEmpty_iff.mpr empty)

end Filler

end EstateFiling
