import EstateFiling.Proofs.Document.Blocks

/-!
# Lookups

A lookup by an identifier finds the first match.  Where elements that share an identifier
are equal, each element is what its identifier finds (`KeyedApart.find?_eq_of_mem`), so it
does not matter in which order they stand (`KeyedApart.find?_eq_of_perm`).  Elements with
distinct identifiers are a special case (`keyedApart_of_nodup`).

The tables of a document are read section by section (`DocumentContent.tables_eq`), and the
lemmas about blocks without tables reduce a section to its tables, as those in
`Document/Blocks` reduce it to its boxes.
-/

namespace EstateFiling

/-! ## Elements with a key -/

/-- Elements of a list that share a key are equal. -/
def KeyedApart {α : Type} (key : α → String) (xs : List α) : Prop :=
  ∀ x ∈ xs, ∀ y ∈ xs, key x = key y → x = y

section Keys

variable {α : Type} {key : α → String} {xs : List α}

theorem keyedApart_of_nodup (distinct : (xs.map key).Nodup) : KeyedApart key xs :=
  fun _ hx _ hy same => List.inj_on_of_nodup_map distinct hx hy same

theorem KeyedApart.subset {ys : List α} (h : KeyedApart key ys) (sub : xs ⊆ ys) :
    KeyedApart key xs := fun x hx y hy => h x (sub hx) y (sub hy)

/-- Each element is what its key finds. -/
theorem KeyedApart.find?_eq_of_mem (h : KeyedApart key xs) {x : α} (hx : x ∈ xs) :
    xs.find? (fun y => key y == key x) = some x := by
  cases found : xs.find? (fun y => key y == key x) with
  | none => exact absurd (beq_self_eq_true (key x)) (List.find?_eq_none.mp found x hx)
  | some y =>
    have same : key y = key x := by simpa using List.find?_some found
    rw [h y (List.mem_of_find?_eq_some found) x hx same]

/-- What a key finds does not depend on the order. -/
theorem KeyedApart.find?_eq_of_perm (h : KeyedApart key xs) {ys : List α} (order : ys.Perm xs)
    (k : String) : ys.find? (fun y => key y == k) = xs.find? (fun x => key x == k) := by
  by_cases present : ∃ x ∈ xs, key x = k
  · obtain ⟨x, hx, rfl⟩ := present
    rw [h.find?_eq_of_mem hx, (h.subset order.subset).find?_eq_of_mem (order.mem_iff.mpr hx)]
  · have absent : ∀ x ∈ xs, ¬ (key x == k) = true := fun x hx same =>
      present ⟨x, hx, eq_of_beq same⟩
    rw [List.find?_eq_none.mpr absent,
      List.find?_eq_none.mpr fun y hy => absent y (order.subset hy)]

end Keys

/-! ## Tables of lists of blocks -/

/-- The tables among blocks. -/
def tablesOf (bs : List Block) : List Table := bs.filterMap Block.table?

theorem tablesOf_append (bs cs : List Block) : tablesOf (bs ++ cs) = tablesOf bs ++ tablesOf cs :=
  List.filterMap_append

theorem tablesOf_ite {p : Prop} [Decidable p] (bs cs : List Block) :
    tablesOf (if p then bs else cs) = if p then tablesOf bs else tablesOf cs := apply_ite ..

theorem tablesOf_mapIdx {α : Type} {f : Nat → α → Block} (h : ∀ i a, (f i a).table? = none)
    (xs : List α) : tablesOf (xs.mapIdx f) = [] := filterMap_mapIdx_eq_nil h xs

theorem tablesOf_breakBefore (number : Nat) :
    tablesOf (if 1 < number then [Block.pageBreak] else []) = [] := by
  split <;> rfl

/-- The tables of a section. -/
def Section.tables (s : Section) : List Table := tablesOf s.blocks

theorem DocumentContent.tables_eq (d : DocumentContent) :
    d.tables = d.sections.flatMap Section.tables := by
  unfold DocumentContent.tables DocumentContent.blocks
  exact List.filterMap_flatMap

namespace Compose

variable (style : StyleProfile)

theorem tablesOf_enumeration (entries : List String) (indent : UInt16) :
    tablesOf (enumeration style entries indent) = [] :=
  filterMap_enumeration style (fun _ => rfl) entries indent

theorem tablesOf_enumerationOrNone (entries : List String) :
    tablesOf (enumerationOrNone style entries) = [] :=
  filterMap_enumerationOrNone style (fun _ => rfl) entries

theorem tablesOf_signatures (names : List String) (caption : String) :
    tablesOf (signatures style names caption) = [] :=
  filterMap_signatures style (fun _ => rfl) names caption

end Compose

end EstateFiling
