import EstateFiling.Proofs.Document.Choice

/-!
# Selecting from any table

What a clause table selects, for any rows, facts and identifiers: the same identifier may
stand in several rows, and the fallback may be one of them.

The selection depends on the rows only through the first of them that applies
(`ClauseTable.select_withClauses_congr`).  So rows after it do not count
(`ClauseTable.select_of_later`), and where at most one applies their order does not
(`ClauseTable.select_of_perm`).  A choice that offers every identifier of the table once
checks one box, the active one.  All of it together is `ClauseTable.selects_first`.
-/

namespace EstateFiling

namespace ClauseTable

variable {Facts : Type}

/-- The table with other rows. -/
def withClauses (t : ClauseTable Facts) (rows : List (Clause Facts)) : ClauseTable Facts :=
  { t with clauses := rows }

theorem withClauses_self (t : ClauseTable Facts) : t.withClauses t.clauses = t := rfl

variable (t : ClauseTable Facts) (facts : Facts) {rows rows' : List (Clause Facts)}

/-! ## The first that applies -/

/-- A selection is the first of what matches. -/
theorem select_of_head? {id : String} (first : (t.matching facts).head? = some id) :
    t.select facts = ⟨t.group, id, false⟩ := by
  obtain ⟨rest, matching⟩ := List.head?_eq_some_iff.mp first
  rw [select, matching]

theorem select_of_nil (unmatched : t.matching facts = []) :
    t.select facts = ⟨t.group, t.fallback, true⟩ := by
  rw [select, unmatched]

theorem head?_matching_withClauses (rows : List (Clause Facts)) :
    ((t.withClauses rows).matching facts).head?
      = (rows.find? fun c => c.applies facts).map Clause.id := by
  rw [matching, withClauses, List.head?_map, List.head?_filter]

/-- Rows of which the same one is the first that applies are selected from alike. -/
theorem select_withClauses_congr
    (same : (rows.find? fun c => c.applies facts) = rows'.find? fun c => c.applies facts) :
    (t.withClauses rows).select facts = (t.withClauses rows').select facts := by
  have heads : ((t.withClauses rows).matching facts).head?
      = ((t.withClauses rows').matching facts).head? := by
    rw [head?_matching_withClauses, head?_matching_withClauses, same]
  cases first : ((t.withClauses rows).matching facts).head? with
  | some id =>
    rw [select_of_head? _ facts first, select_of_head? _ facts (heads ▸ first)]
    rfl
  | none =>
    have left := List.head?_eq_none_iff.mp first
    have right := List.head?_eq_none_iff.mp (heads ▸ first)
    rw [select_of_nil _ facts left, select_of_nil _ facts right]
    rfl

/-! ## Rows that do not count -/

/-- What stands after a row that applies does not count. -/
theorem select_of_later {before : List (Clause Facts)} {c : Clause Facts}
    (applies : c.applies facts = true) (after after' : List (Clause Facts)) :
    (t.withClauses (before ++ c :: after)).select facts
      = (t.withClauses (before ++ c :: after')).select facts := by
  refine t.select_withClauses_congr facts ?_
  have found : ∀ rest, ((c :: rest).find? fun d => d.applies facts) = some c :=
    fun rest => List.find?_cons_of_pos applies
  rw [List.find?_append, List.find?_append, found, found]

/-- The rows that apply come in the same order if there is one at most. -/
theorem filter_applies_of_perm (order : rows.Perm rows')
    (one : (rows'.filter fun c => c.applies facts).length ≤ 1) :
    (rows.filter fun c => c.applies facts) = rows'.filter fun c => c.applies facts := by
  have kept := order.filter fun c => c.applies facts
  generalize (rows'.filter fun c => c.applies facts) = applying at kept one
  match applying, one with
  | [], _ => exact kept.eq_nil
  | [c], _ => exact List.perm_singleton.mp kept

/-- Where at most one row applies, the order does not count. -/
theorem select_of_perm (order : rows.Perm rows')
    (one : (rows'.filter fun c => c.applies facts).length ≤ 1) :
    (t.withClauses rows).select facts = (t.withClauses rows').select facts := by
  refine t.select_withClauses_congr facts ?_
  rw [← List.head?_filter, ← List.head?_filter, filter_applies_of_perm facts order one]

/-! ## The law of selection -/

/-- What selecting from a table comes to. -/
structure SelectsFirst (t : ClauseTable Facts) (facts : Facts) : Prop where
  /-- The active clause is the first of those that match. -/
  first : ∀ id ∈ (t.matching facts).head?, (t.select facts).active = id
  /-- Without a match it is the fallback. -/
  fallback : t.matching facts = [] → (t.select facts).active = t.fallback
  /-- Only then is the fallback said to be taken. -/
  fellBack : (t.select facts).fellBack = true ↔ t.matching facts = []
  /-- The active clause is one of the table's. -/
  listed : (t.select facts).active ∈ t.ids
  /-- Rows after one that matches do not count. -/
  later : ∀ before c after, t.clauses = before ++ c :: after → c.applies facts = true →
    ∀ after', (t.withClauses (before ++ c :: after')).select facts = t.select facts
  /-- Where at most one matches, the order of the rows does not count. -/
  reordered : (t.matching facts).length ≤ 1 →
    ∀ rows, rows.Perm t.clauses → (t.withClauses rows).select facts = t.select facts
  /-- A choice among distinct options that cover the table has one box for each, and the
  active one is checked. -/
  printed : ∀ (style : StyleProfile) (id : String) (caption : Option String)
    (options : List (String × String)), t.ServedBy (options.map Prod.fst) →
    ∃ g, Compose.choice style id caption (t.select facts) options = .checkboxes g
      ∧ g.options.map (fun o => (o.id, o.label)) = options
      ∧ g.checked.map CheckboxOption.id = [(t.select facts).active]

/-- Selecting from any table, for any facts, gives the first clause that matches, and the
fallback without one. -/
theorem selects_first (t : ClauseTable Facts) (facts : Facts) : t.SelectsFirst facts where
  first id head := by rw [t.select_of_head? facts head]
  fallback unmatched := by rw [t.select_of_nil facts unmatched]
  fellBack := by
    cases found : (t.matching facts).head? with
    | none =>
      have unmatched := List.head?_eq_none_iff.mp found
      simp [t.select_of_nil facts unmatched, unmatched]
    | some id =>
      have matched : t.matching facts ≠ [] := by
        intro unmatched
        rw [unmatched] at found
        cases found
      simp [t.select_of_head? facts found, matched]
  listed := t.select_active_mem_ids facts
  later before c after rows applies after' := by
    rw [t.select_of_later facts applies after' after, ← rows, withClauses_self]
  reordered one rows order := by
    rw [matching, List.length_map] at one
    rw [t.select_of_perm facts order one, withClauses_self]
  printed style id caption options served := by
    refine ⟨_, Compose.choice_eq style id caption (t.select facts) options, ?_, ?_⟩
    · rw [Compose.choiceGroup, List.map_map]
      exact List.map_id' options
    · exact (Compose.choiceGroup_shows_select style id facts _ rfl served).checked

/-- Sizes of a number: two rows overlap, and the fallback is one of them. -/
def sizes : ClauseTable Int where
  group := "size"
  fallback := "positive"
  clauses := [⟨"small", fun n => n < 10⟩, ⟨"positive", fun n => 0 < n⟩, ⟨"small", fun n => n = 12⟩]

/-- Five is small and positive, and the first counts.  For twelve the third row does not
count, and for numbers below zero the order does not. -/
theorem sizes_selects_first :
    (sizes.matching 5 = ["small", "positive"] ∧ (sizes.select 5).active = "small")
    ∧ (sizes.matching 12 = ["positive", "small"]
      ∧ (sizes.withClauses (sizes.clauses.take 2)).select 12 = sizes.select 12)
    ∧ (sizes.matching (-3) = ["small"]
      ∧ (sizes.withClauses sizes.clauses.reverse).select (-3) = sizes.select (-3))
    ∧ sizes.ServedBy ["positive", "small"]
    ∧ ∃ g, Compose.choice .standard "size" none (sizes.select 5)
        [("positive", "Above zero"), ("small", "Below ten")] = .checkboxes g
      ∧ g.options.map (fun o => (o.id, o.label))
        = [("positive", "Above zero"), ("small", "Below ten")]
      ∧ g.checked.map CheckboxOption.id = ["small"] := by
  have five : (sizes.select 5).active = "small" :=
    (sizes.selects_first 5).first "small" (by decide)
  have served : sizes.ServedBy ["positive", "small"] := by decide
  have printed := (sizes.selects_first 5).printed .standard "size" none
    [("positive", "Above zero"), ("small", "Below ten")] served
  rw [five] at printed
  have twelve := (sizes.selects_first 12).later [⟨"small", fun n => n < 10⟩]
    ⟨"positive", fun n => 0 < n⟩ [⟨"small", fun n => n = 12⟩] rfl (by decide) []
  have negative := (sizes.selects_first (-3)).reordered (by decide) sizes.clauses.reverse
    (List.reverse_perm _)
  exact ⟨⟨by decide, five⟩, ⟨by decide, twelve⟩, ⟨by decide, negative⟩, served, printed⟩

end ClauseTable

end EstateFiling
