import EstateFiling.Document.Compose
import Mathlib.Data.List.Nodup

/-!
# Printed choices

What a clause table selects and what `Compose.choice` prints of it.

*Selection.*  The active clause is always one of the identifiers of the table
(`ClauseTable.select_active_mem_ids`).  A table is *exclusive* on some facts when
no two of its clauses apply to them.  Then at most one clause matches
(`ClauseTable.Exclusive.length_matching_le`), the order of the clauses does not
matter: the active clause is the one that the facts settle on
(`ClauseTable.Exclusive.select_active_iff`).

*Printing.*  A group of boxes *shows* an identifier when its options have
distinct identifiers and the only checked box is the one with that identifier.
A printed choice shows the active clause as soon as its options have distinct
identifiers and cover the table (`Compose.choiceGroup_shows_select`).  Both
conditions speak of the identifiers alone (`ClauseTable.ServedBy`), which are the
same for every estate, so they are decided where a passage is named.
-/

namespace EstateFiling

/-! ## Selection -/

namespace ClauseTable

variable {Facts : Type} {t : ClauseTable Facts} {facts : Facts}

/-- Every identifier that matches belongs to a clause of the table. -/
theorem matching_subset (t : ClauseTable Facts) (facts : Facts) :
    t.matching facts ⊆ t.clauses.map Clause.id := by
  intro id hid
  obtain ⟨c, hc, rfl⟩ := List.mem_map.mp hid
  exact List.mem_map.mpr ⟨c, (List.mem_filter.mp hc).1, rfl⟩

theorem mem_ids_of_clause {id : String} (h : id ∈ t.clauses.map Clause.id) : id ∈ t.ids := by
  unfold ids
  dsimp only
  split
  · exact h
  · exact List.mem_append_left _ h

theorem fallback_mem_ids (t : ClauseTable Facts) : t.fallback ∈ t.ids := by
  unfold ids
  dsimp only
  split
  · rename_i h
    exact List.contains_iff_mem.mp h
  · exact List.mem_append_right _ (List.mem_singleton_self _)

/-- A table only ever selects one of its own identifiers. -/
theorem select_active_mem_ids (t : ClauseTable Facts) (facts : Facts) :
    (t.select facts).active ∈ t.ids := by
  unfold select
  split
  · exact t.fallback_mem_ids
  · rename_i id rest h
    exact mem_ids_of_clause (t.matching_subset facts (h ▸ List.mem_cons_self))

/-- The active clause is the fallback or one that applies. -/
theorem select_active_cases (t : ClauseTable Facts) (facts : Facts) :
    (t.select facts).active = t.fallback ∨
      ∃ c ∈ t.clauses, c.applies facts = true ∧ c.id = (t.select facts).active := by
  unfold select
  split
  · exact Or.inl rfl
  · rename_i id rest h
    have hid : id ∈ t.matching facts := h ▸ List.mem_cons_self
    obtain ⟨c, hc, rfl⟩ := List.mem_map.mp hid
    obtain ⟨hmem, happ⟩ := List.mem_filter.mp hc
    exact Or.inr ⟨c, hmem, happ, rfl⟩

/-- A clause that does not apply is not active, unless it is the fallback. -/
theorem select_active_ne {id : String} (hfallback : t.fallback ≠ id)
    (h : ∀ c ∈ t.clauses, c.id = id → c.applies facts = false) :
    (t.select facts).active ≠ id := by
  intro hid
  rcases t.select_active_cases facts with fallback | ⟨c, hc, happ, hcid⟩
  · exact hfallback (fallback.symm.trans hid)
  · rw [h c hc (hcid.trans hid)] at happ
    cases happ

/-- A table selects the same clause for facts that its clauses cannot tell
apart. -/
theorem select_congr {facts' : Facts}
    (h : ∀ c ∈ t.clauses, c.applies facts = c.applies facts') :
    t.select facts = t.select facts' := by
  have same : t.matching facts = t.matching facts' :=
    congrArg (List.map Clause.id) (List.filter_congr h)
  unfold select
  rw [same]

/-- Identifiers that serve a table: none stands there twice, and those of the
table are among them. -/
abbrev ServedBy (t : ClauseTable Facts) (names : List String) : Prop :=
  names.Nodup ∧ t.ids ⊆ names

/-- No two clauses of the table apply to the facts. -/
def Exclusive (t : ClauseTable Facts) (facts : Facts) : Prop :=
  t.clauses.Pairwise fun c d => c.applies facts = true → d.applies facts = false

/-- The clauses of a question that is answered yes or no. -/
theorem exclusive_of_complement {yes no : String} {p : Facts → Bool}
    (h : t.clauses = [⟨yes, p⟩, ⟨no, fun f => !p f⟩]) : t.Exclusive facts := by
  unfold Exclusive
  rw [h]
  simp

/-- The clauses that apply, of clauses no two of which do. -/
theorem length_filter_applies_le {clauses : List (Clause Facts)}
    (h : clauses.Pairwise fun c d => c.applies facts = true → d.applies facts = false) :
    (clauses.filter fun c => c.applies facts).length ≤ 1 := by
  induction h with
  | nil => exact Nat.zero_le 1
  | @cons c rest hc _ ih =>
      cases happ : c.applies facts with
      | false => rwa [List.filter_cons, if_neg (by simp [happ])]
      | true =>
          -- The first clause applies, so none of the others does.
          have others : rest.filter (fun d => d.applies facts) = [] :=
            List.filter_eq_nil_iff.mpr fun d hd => by simp [hc d hd happ]
          rw [List.filter_cons, if_pos happ, others]
          exact Nat.le_refl 1

theorem Exclusive.length_matching_le (h : t.Exclusive facts) :
    (t.matching facts).length ≤ 1 := by
  unfold matching
  rw [List.length_map]
  exact length_filter_applies_le h

/-- A clause that applies is the only one that matches. -/
theorem Exclusive.matching_eq_singleton (h : t.Exclusive facts) {c : Clause Facts}
    (hc : c ∈ t.clauses) (happ : c.applies facts = true) : t.matching facts = [c.id] := by
  have mem : c.id ∈ t.matching facts := List.mem_map_of_mem (List.mem_filter.mpr ⟨hc, happ⟩)
  obtain ⟨id, single⟩ := List.length_eq_one_iff.mp
    (Nat.le_antisymm h.length_matching_le (List.length_pos_of_mem mem))
  rw [single, List.mem_singleton] at mem
  rw [single, mem]

/-- The facts settle on a clause: it applies, or it is the fallback and none does. -/
def Settles (t : ClauseTable Facts) (facts : Facts) (id : String) : Prop :=
  (∃ c ∈ t.clauses, c.applies facts = true ∧ c.id = id)
    ∨ (t.fallback = id ∧ ∀ c ∈ t.clauses, c.applies facts = false)

/-- The facts settle on the only clause of a table exactly if it applies. -/
theorem settles_single_iff {c : Clause Facts} (single : t.clauses = [c])
    (other : t.fallback ≠ c.id) : t.Settles facts c.id ↔ c.applies facts = true := by
  simp [Settles, single, other]

/-- Where no two clauses apply, the one that the facts settle on is active. -/
theorem Exclusive.select_active_iff (h : t.Exclusive facts) {id : String} :
    (t.select facts).active = id ↔ t.Settles facts id := by
  constructor
  · rintro rfl
    by_cases applies : ∃ c ∈ t.clauses, c.applies facts = true
    · obtain ⟨c, hc, happ⟩ := applies
      refine Or.inl ⟨c, hc, happ, ?_⟩
      unfold select
      rw [h.matching_eq_singleton hc happ]
    · have inapplicable : ∀ c ∈ t.clauses, c.applies facts = false := by
        intro c hc
        exact Bool.eq_false_iff.mpr fun happ => applies ⟨c, hc, happ⟩
      rcases t.select_active_cases facts with fallback | ⟨c, hc, happ, _⟩
      · exact Or.inr ⟨fallback.symm, inapplicable⟩
      · exact absurd ⟨c, hc, happ⟩ applies
  · rintro (⟨c, hc, happ, rfl⟩ | ⟨rfl, inapplicable⟩)
    · unfold select
      rw [h.matching_eq_singleton hc happ]
    · rcases t.select_active_cases facts with fallback | ⟨c, hc, happ, _⟩
      · exact fallback
      · rw [inapplicable c hc] at happ
        cases happ

end ClauseTable

/-! ## Groups of boxes that show a choice -/

/-- The options have distinct identifiers and exactly the box with the given one
is checked. -/
structure CheckboxGroup.Shows (g : CheckboxGroup) (active : String) : Prop where
  /-- No two options share an identifier. -/
  distinct : (g.options.map CheckboxOption.id).Nodup
  /-- One box is checked, the one with the identifier. -/
  checked : g.checked.map CheckboxOption.id = [active]

namespace CheckboxGroup.Shows

variable {g : CheckboxGroup} {active : String}

/-- A box of the group is checked exactly when it is the active one. -/
theorem isChecked_iff (h : g.Shows active) (id : String) :
    g.isChecked id = true ↔ id = active := by
  have mem : (∃ o ∈ g.checked, o.id = id) ↔ id = active := by
    rw [← List.mem_map, h.checked, List.mem_singleton]
  rw [← mem]
  simp only [isChecked, CheckboxGroup.checked, List.any_eq_true, List.mem_filter,
    Bool.and_eq_true, beq_iff_eq]
  constructor
  · rintro ⟨o, ho, hid, hc⟩
    exact ⟨o, ⟨ho, hc⟩, hid⟩
  · rintro ⟨o, ⟨ho, hc⟩, hid⟩
    exact ⟨o, ho, hid, hc⟩

end CheckboxGroup.Shows

namespace Compose

/-! ## The group that a choice prints -/

/-- The boxes of a choice. -/
def choiceGroup (style : StyleProfile) (id : String) (caption : Option String)
    (selection : ClauseSelection) (options : List (String × String)) : CheckboxGroup where
  id := id
  caption := caption
  options := options.map fun (id, label) => option id label (selection.isActive id)
  indent := style.indent 1
  size := style.bodySize

/-- The boxes of a clause table's passage. -/
def passageGroup {Facts : Type} (style : StyleProfile) (table : ClauseTable Facts) (facts : Facts)
    (options : List (String × String)) (caption : Option String := none) : CheckboxGroup :=
  choiceGroup style table.group caption (table.select facts) options

theorem choice_eq (style : StyleProfile) (id : String) (caption : Option String)
    (selection : ClauseSelection) (options : List (String × String)) :
    choice style id caption selection options =
      .checkboxes (choiceGroup style id caption selection options) := by
  simp only [choice, checkboxes, choiceGroup, List.map_map]
  rfl

theorem map_id_choiceGroup (style : StyleProfile) (id : String) (caption : Option String)
    (selection : ClauseSelection) (options : List (String × String)) :
    (choiceGroup style id caption selection options).options.map CheckboxOption.id =
      options.map Prod.fst := by
  simp only [choiceGroup, List.map_map]
  rfl

/-- The identifiers of the checked boxes are those of the options that equal the
active one. -/
theorem map_id_checked_choiceGroup (style : StyleProfile) (id : String) (caption : Option String)
    (selection : ClauseSelection) (options : List (String × String)) :
    (choiceGroup style id caption selection options).checked.map CheckboxOption.id =
      (options.map Prod.fst).filter (· == selection.active) := by
  simp only [CheckboxGroup.checked, choiceGroup, List.filter_map, List.map_map]
  refine congrArg₂ List.map rfl (List.filter_congr fun p _ => ?_)
  exact Bool.beq_comm ..

/-- A choice shows the active clause when its options have distinct identifiers,
the active one among them. -/
theorem choiceGroup_shows (style : StyleProfile) (id : String) (caption : Option String)
    {selection : ClauseSelection} {options : List (String × String)}
    (distinct : (options.map Prod.fst).Nodup)
    (covered : selection.active ∈ options.map Prod.fst) :
    (choiceGroup style id caption selection options).Shows selection.active where
  distinct := by rwa [map_id_choiceGroup]
  checked := by
    rw [map_id_checked_choiceGroup, List.filter_beq,
      List.count_eq_one_of_mem distinct covered]
    rfl

/-- A choice among the clauses of a table shows what the table selects when the
identifiers of its options serve the table.  They are given apart from the options,
since they do not depend on the estate. -/
theorem choiceGroup_shows_select {Facts : Type} (style : StyleProfile) (id : String)
    {caption : Option String} {table : ClauseTable Facts} (facts : Facts)
    {options : List (String × String)} (names : List String)
    (named : options.map Prod.fst = names) (served : table.ServedBy names) :
    (choiceGroup style id caption (table.select facts) options).Shows
      (table.select facts).active := by
  obtain ⟨distinct, covered⟩ := served
  subst named
  exact choiceGroup_shows style id caption distinct
    (covered (table.select_active_mem_ids facts))

end Compose

end EstateFiling
