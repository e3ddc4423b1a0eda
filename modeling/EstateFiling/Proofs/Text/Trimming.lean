import EstateFiling.Text.Blank
import Mathlib.Data.List.DropRight

/-!
# Trimmed, split and joined texts

Trimming leaves nothing exactly of a blank text (`Text.isEmpty_trim`) and nothing
out of a text without blanks (`Text.trimChars_eq_self`), and a text is what it leaves with
blanks around it (`Text.exists_trimChars_append`).  A cut at the first element
of a class is found where it was put (`Text.splitFirst_append_cons`), and nowhere else
(`Text.splitFirst_cases`), and so are cuts at all of them, one by one
(`Text.splitWhere_append_cons`).  Texts joined by a separator are
empty only if each of them is (`Text.join_ne_empty`), and trimmed if each of them is
(`Text.trim_join`).
-/

namespace EstateFiling.Text

/-! ## Trimming -/

theorem trimChars_eq_rdropWhile (cs : List Char) :
    trimChars cs = (cs.dropWhile isBlank).rdropWhile isBlank := rfl

theorem trimChars_eq_nil_iff (cs : List Char) :
    trimChars cs = [] ↔ ∀ c ∈ cs, isBlank c = true := by
  rw [trimChars_eq_rdropWhile, List.rdropWhile_eq_nil_iff]
  constructor
  · intro blank
    -- What is left after the leading blanks would start with something else.
    refine List.dropWhile_eq_nil_iff.mp (Classical.byContradiction fun left => ?_)
    have head : isBlank ((cs.dropWhile isBlank).head left) = false := List.head_dropWhile_not _ left
    rw [blank _ (List.head_mem left)] at head
    cases head
  · intro blank c hc
    exact blank c (List.dropWhile_subset isBlank hc)

/-- A text without blanks is trimmed. -/
theorem trimChars_eq_self {cs : List Char} (h : ∀ c ∈ cs, isBlank c = false) :
    trimChars cs = cs := by
  have front : cs.dropWhile isBlank = cs :=
    List.dropWhile_eq_self_iff.mpr fun hl => by simp [h _ (List.getElem_mem hl)]
  rw [trimChars_eq_rdropWhile, front, List.rdropWhile_eq_self_iff]
  intro nonempty
  simp [h _ (List.getLast_mem nonempty)]

/-- A text that does not begin with a blank keeps its first character. -/
theorem trimChars_cons {c : Char} (h : isBlank c = false) (cs : List Char) :
    trimChars (c :: cs) = c :: cs.rdropWhile isBlank := by
  have front : ¬ isBlank c = true := by simp [h]
  rw [trimChars_eq_rdropWhile, List.dropWhile_cons_of_neg front, List.rdropWhile, List.rdropWhile,
    List.reverse_cons, List.dropWhile_append]
  split
  · rename_i blank
    rw [List.isEmpty_iff.mp blank, List.dropWhile_cons_of_neg front]
    rfl
  · rw [List.reverse_append]
    rfl

/-- Trimming leaves nothing exactly of a blank text. -/
theorem isEmpty_trim (s : String) : (trim s).isEmpty = isBlankText s := by
  rw [Bool.eq_iff_iff]
  unfold trim isBlankText
  rw [String.isEmpty_iff, String.ofList_eq_empty_iff, trimChars_eq_nil_iff, List.all_eq_true]

/-- A text is blank exactly if what trimming leaves is. -/
theorem isBlankText_trim (s : String) : isBlankText (trim s) = isBlankText s := by
  have blank : (∀ c ∈ trimChars s.toList, isBlank c = true) ↔ ∀ c ∈ s.toList, isBlank c = true := by
    rw [← trimChars_eq_nil_iff s.toList]
    constructor
    · intro blank
      by_contra left
      -- The last character that is left is not blank.
      rw [trimChars_eq_rdropWhile] at blank left
      exact List.rdropWhile_last_not isBlank _ left (blank _ (List.getLast_mem left))
    · intro empty
      rw [empty]
      exact fun _ h => nomatch h
  rw [Bool.eq_iff_iff, isBlankText, isBlankText, List.all_eq_true, List.all_eq_true, trim,
    String.toList_ofList]
  exact blank

/-- What is trimmed stays as it is. -/
theorem trim_trim (s : String) : trim (trim s) = trim s := by
  have front : (trimChars s.toList).dropWhile isBlank = trimChars s.toList := by
    -- What is left begins where the leading blanks end.
    have kept : trimChars s.toList <+: s.toList.dropWhile isBlank := List.rdropWhile_prefix _ _
    refine List.dropWhile_eq_self_iff.mpr fun hl => ?_
    have head := List.head_dropWhile_not isBlank
      (List.ne_nil_of_length_pos (hl.trans_le kept.length_le))
    rw [List.head_eq_getElem] at head
    rw [kept.getElem hl, head]
    exact Bool.false_ne_true
  unfold trim
  rw [String.toList_ofList, trimChars_eq_rdropWhile (trimChars s.toList), front,
    trimChars_eq_rdropWhile, List.rdropWhile_idempotent]

/-- Texts may be trimmed before the blank ones are left out. -/
theorem trimmedNonBlank_map_trim (ss : List String) :
    trimmedNonBlank (ss.map trim) = trimmedNonBlank ss := by
  have twice : trim ∘ trim = trim := funext trim_trim
  rw [trimmedNonBlank, trimmedNonBlank, List.map_map, twice]

/-- A text is trimmed if it neither begins nor ends with a blank. -/
theorem trim_eq_self_iff {s : String} :
    trim s = s ↔ (∀ c ∈ s.toList.head?, isBlank c = false)
      ∧ ∀ c ∈ s.toList.getLast?, isBlank c = false := by
  have front : s.toList.dropWhile isBlank = s.toList
      ↔ ∀ c ∈ s.toList.head?, isBlank c = false := by
    rw [List.dropWhile_eq_self_iff]
    cases s.toList <;> simp
  have back : s.toList.rdropWhile isBlank = s.toList
      ↔ ∀ c ∈ s.toList.getLast?, isBlank c = false := by
    rw [List.rdropWhile_eq_self_iff]
    cases s.toList <;> simp [List.getLast?_eq_some_getLast]
  rw [← front, ← back, trim, ← String.toList_inj, String.toList_ofList, trimChars_eq_rdropWhile]
  refine ⟨fun same => ?_, fun ⟨front, back⟩ => by rw [front, back]⟩
  -- What is left after the leading blanks is not shorter than the whole.
  have kept := (List.rdropWhile_prefix isBlank (s.toList.dropWhile isBlank)).length_le
  rw [same] at kept
  have front := (List.dropWhile_suffix isBlank).eq_of_length_le kept
  rw [front] at same
  exact ⟨front, same⟩

/-! ## Blanks around -/

theorem trimChars_blanks_append {before : List Char} (blank : ∀ c ∈ before, isBlank c = true)
    (cs : List Char) : trimChars (before ++ cs) = trimChars cs := by
  rw [trimChars, List.dropWhile_append_of_pos blank, trimChars]

theorem trimChars_append_blanks {after : List Char} (blank : ∀ c ∈ after, isBlank c = true)
    (cs : List Char) : trimChars (cs ++ after) = trimChars cs := by
  have reversed : ∀ c ∈ after.reverse, isBlank c = true := fun c hc =>
    blank c (List.mem_reverse.mp hc)
  rw [trimChars, trimChars, List.dropWhile_append]
  split
  · rename_i all
    rw [List.isEmpty_iff.mp all, List.dropWhile_eq_nil_iff.mpr blank]
  · rw [List.reverse_append, List.dropWhile_append_of_pos reversed]

/-- A text is what trimming leaves, with blanks around it. -/
theorem exists_trimChars_append (cs : List Char) :
    ∃ before after, cs = before ++ (trimChars cs ++ after)
      ∧ (∀ c ∈ before, isBlank c = true) ∧ ∀ c ∈ after, isBlank c = true := by
  refine ⟨cs.takeWhile isBlank, (cs.dropWhile isBlank).rtakeWhile isBlank, ?_,
    fun _ => List.mem_takeWhile_imp, fun _ => List.mem_rtakeWhile_imp⟩
  rw [trimChars_eq_rdropWhile, List.rdropWhile_append_rtakeWhile, List.takeWhile_append_dropWhile]

/-! ## Splitting -/

theorem splitFirst_append_cons {α : Type} {p : α → Bool} {xs : List α} {x : α}
    (before : ∀ a ∈ xs, p a = false) (hx : p x = true) (ys : List α) :
    splitFirst p (xs ++ x :: ys) = (xs, some ys) := by
  induction xs with
  | nil => simp [splitFirst, hx]
  | cons a xs ih =>
    obtain ⟨ha, hxs⟩ := List.forall_mem_cons.mp before
    simp [splitFirst, ha, ih hxs]

/-- A list is cut before the first element of the class, or left whole without one. -/
theorem splitFirst_cases {α : Type} (p : α → Bool) (xs : List α) :
    ((∀ a ∈ xs, p a = false) ∧ splitFirst p xs = (xs, none))
    ∨ ∃ before x after, xs = before ++ x :: after ∧ p x = true
      ∧ splitFirst p xs = (before, some after) := by
  induction xs with
  | nil => exact Or.inl ⟨fun _ h => absurd h List.not_mem_nil, rfl⟩
  | cons a xs ih =>
    cases ha : p a with
    | true => exact Or.inr ⟨[], a, xs, rfl, ha, by simp [splitFirst, ha]⟩
    | false =>
      rcases ih with ⟨uncut, whole⟩ | ⟨before, x, after, rfl, hx, cut⟩
      · exact Or.inl ⟨List.forall_mem_cons.mpr ⟨ha, uncut⟩, by simp [splitFirst, ha, whole]⟩
      · exact Or.inr ⟨a :: before, x, after, rfl, hx, by simp [splitFirst, ha, cut]⟩

/-- A list without the elements that are cut at is left whole. -/
theorem splitFirst_eq_self {α : Type} {p : α → Bool} {xs : List α}
    (uncut : ∀ a ∈ xs, p a = false) : splitFirst p xs = (xs, none) := by
  rcases splitFirst_cases p xs with ⟨-, whole⟩ | ⟨before, x, after, rfl, hx, -⟩
  · exact whole
  · exact absurd (uncut x (by simp)) (by simp [hx])

/-- A list without the elements that are cut at is left whole. -/
theorem splitWhere_eq_singleton {α : Type} {p : α → Bool} {xs : List α}
    (uncut : ∀ a ∈ xs, p a = false) : splitWhere p xs = [xs] := by
  induction xs with
  | nil => rfl
  | cons a xs ih =>
    obtain ⟨ha, hxs⟩ := List.forall_mem_cons.mp uncut
    simp [splitWhere, ha, ih hxs]

theorem splitWhere_append_cons {α : Type} {p : α → Bool} {xs : List α} {x : α}
    (before : ∀ a ∈ xs, p a = false) (hx : p x = true) (ys : List α) :
    splitWhere p (xs ++ x :: ys) = xs :: splitWhere p ys := by
  induction xs with
  | nil => simp [splitWhere, hx]
  | cons a xs ih =>
    obtain ⟨ha, hxs⟩ := List.forall_mem_cons.mp before
    simp [splitWhere, ha, ih hxs]

/-! ## Joining -/

/-- Joined texts are empty only if each of them is. -/
theorem join_ne_empty {separator part : String} {parts : List String} (hpart : part ∈ parts)
    (nonempty : part ≠ "") : join separator parts ≠ "" := by
  unfold join
  induction parts with
  | nil => cases hpart
  | cons first rest ih =>
    by_cases last : rest = []
    · subst last
      obtain rfl := List.mem_singleton.mp hpart
      rwa [String.intercalate_singleton]
    · rw [String.intercalate_cons_of_ne_nil last]
      intro empty
      obtain ⟨front, back⟩ := String.append_eq_empty_iff.mp empty
      rcases List.mem_cons.mp hpart with rfl | hpart
      · exact nonempty (String.append_eq_empty_iff.mp front).1
      · exact ih hpart back

/-- Texts with something between them begin like the first and end like the second. -/
theorem trim_append_append {s t : String} (between : String) (hs : trim s = s) (ht : trim t = t)
    (nonempty : s ≠ "") (nonempty' : t ≠ "") : trim (s ++ between ++ t) = s ++ between ++ t := by
  rw [trim_eq_self_iff] at hs ht ⊢
  have first : s.toList ≠ [] := fun empty => nonempty (String.toList_inj.mp empty)
  have last : t.toList ≠ [] := fun empty => nonempty' (String.toList_inj.mp empty)
  rw [String.toList_append, String.toList_append, List.append_assoc,
    List.head?_append_of_ne_nil _ first, ← List.append_assoc,
    List.getLast?_append_of_ne_nil _ last]
  exact ⟨hs.1, ht.2⟩

/-- Trimmed texts that are not empty stay so when they are joined. -/
theorem trim_join {separator : String} {parts : List String}
    (h : ∀ part ∈ parts, trim part = part ∧ part ≠ "") :
    trim (join separator parts) = join separator parts := by
  unfold join
  induction parts with
  | nil => rfl
  | cons first rest ih =>
    obtain ⟨⟨trimmed, nonempty⟩, others⟩ := List.forall_mem_cons.mp h
    match rest, others, ih with
    | [], _, _ => rwa [String.intercalate_singleton]
    | second :: rest, others, ih =>
      rw [String.intercalate_cons_of_ne_nil (List.cons_ne_nil _ _)]
      have last : second ≠ "" := (others second List.mem_cons_self).2
      exact trim_append_append separator trimmed (ih others) nonempty
        (join_ne_empty List.mem_cons_self last)

end EstateFiling.Text
