import EstateFiling.Json.Basic
import Mathlib.Data.List.Perm.Basic

/-!
# Canonical values

In a canonical value the members of every object stand in the order of their names
(`Json.InOrder`), so it is its own canonical value (`Json.canonical_canonical`).  The
members of an object that names none twice are only put in another order
(`Json.perm_canonicalMembers`).
-/

namespace EstateFiling.Json

/-! ## Inserting a member -/

/-- Members that stand in the order of their names. -/
def InOrder (ms : List (String × Json)) : Prop := ms.Pairwise fun m m' => m.1 < m'.1

variable {name : String} {value : Json} {ms sorted : List (String × Json)}

theorem mem_insertMember {m : String × Json} (h : m ∈ insertMember name value ms) :
    m = (name, value) ∨ m ∈ ms := by
  induction ms with
  | nil => exact Or.inl (List.mem_singleton.mp h)
  | cons other ms ih =>
    rw [insertMember] at h
    split at h
    · exact (List.mem_cons.mp h).imp_right (List.mem_cons_of_mem other)
    · split at h
      · exact List.mem_cons.mp h
      · rcases List.mem_cons.mp h with rfl | h
        · exact Or.inr List.mem_cons_self
        · exact (ih h).imp_right (List.mem_cons_of_mem other)

theorem InOrder.insertMember (h : InOrder ms) (name : String) (value : Json) :
    InOrder (insertMember name value ms) := by
  induction ms with
  | nil => exact List.pairwise_singleton _ _
  | cons other ms ih =>
    obtain ⟨first, rest⟩ := List.pairwise_cons.mp h
    rw [Json.insertMember]
    split
    · rename_i same
      obtain rfl := beq_iff_eq.mp same
      exact List.pairwise_cons.mpr ⟨first, rest⟩
    · rename_i differs
      split
      · rename_i before
        refine List.pairwise_cons.mpr ⟨?_, h⟩
        intro m hm
        rcases List.mem_cons.mp hm with rfl | hm
        · exact before
        · exact String.lt_trans before (first m hm)
      · rename_i notBefore
        refine List.pairwise_cons.mpr ⟨?_, ih rest⟩
        intro m hm
        rcases mem_insertMember hm with rfl | hm
        · by_contra notAfter
          exact differs (beq_iff_eq.mpr (String.le_antisymm notAfter notBefore))
        · exact first m hm

/-- The value put under a name is the one found there. -/
theorem lookup_insertMember (name : String) (value : Json) (ms : List (String × Json)) :
    (insertMember name value ms).lookup name = some value := by
  induction ms with
  | nil => exact List.lookup_cons_self
  | cons other ms ih =>
    rw [insertMember]
    split
    · exact List.lookup_cons_self
    · rename_i differs
      split
      · exact List.lookup_cons_self
      · rw [List.lookup_cons, eq_false_of_ne_true differs]
        exact ih

/-- The values under other names stay. -/
theorem lookup_insertMember_of_ne {other : String} (h : other ≠ name) (value : Json)
    (ms : List (String × Json)) : (insertMember name value ms).lookup other = ms.lookup other := by
  induction ms with
  | nil => rw [insertMember, List.lookup_cons, beq_false_of_ne h]
  | cons m ms ih =>
    rw [insertMember]
    split
    · rename_i same
      rw [List.lookup_cons, List.lookup_cons, ← beq_iff_eq.mp same, beq_false_of_ne h]
    · split
      · rw [List.lookup_cons, beq_false_of_ne h]
      · rw [List.lookup_cons, List.lookup_cons, ih]

/-- A new name is only put into its place. -/
theorem perm_insertMember (new : name ∉ ms.map Prod.fst) :
    (insertMember name value ms).Perm ((name, value) :: ms) := by
  induction ms with
  | nil => exact List.Perm.refl _
  | cons other ms ih =>
    rw [List.map_cons, List.mem_cons, not_or] at new
    rw [insertMember, beq_false_of_ne new.1, if_neg Bool.false_ne_true]
    split
    · exact List.Perm.refl _
    · exact ((ih new.2).cons other).trans (List.Perm.swap _ _ _)

/-! ## All members -/

theorem InOrder.canonicalMembers (h : InOrder sorted) (ms : List (String × Json)) :
    InOrder (canonicalMembers ms sorted) := by
  induction ms generalizing sorted with
  | nil =>
    rw [Json.canonicalMembers]
    exact h
  | cons m ms ih =>
    rw [Json.canonicalMembers]
    exact ih (h.insertMember m.1 _)

/-- Each value among the members in order was there or is a canonical one. -/
theorem exists_of_mem_canonicalMembers {m : String × Json} (h : m ∈ canonicalMembers ms sorted) :
    m ∈ sorted ∨ ∃ m' ∈ ms, m = (m'.1, canonical m'.2) := by
  induction ms generalizing sorted with
  | nil =>
    rw [canonicalMembers] at h
    exact Or.inl h
  | cons first ms ih =>
    rw [canonicalMembers] at h
    rcases ih h with h | ⟨m', hm', rfl⟩
    · rcases mem_insertMember h with rfl | h
      · exact Or.inr ⟨first, List.mem_cons_self, rfl⟩
      · exact Or.inl h
    · exact Or.inr ⟨m', List.mem_cons_of_mem first hm', rfl⟩

theorem perm_canonicalMembers_append (distinct : ((ms ++ sorted).map Prod.fst).Nodup) :
    (canonicalMembers ms sorted).Perm ((ms.map fun m => (m.1, canonical m.2)) ++ sorted) := by
  induction ms generalizing sorted with
  | nil =>
    rw [canonicalMembers]
    exact List.Perm.refl _
  | cons m ms ih =>
    have rotated : ((m :: ms ++ sorted).map Prod.fst).Perm
        ((ms ++ (m.1, canonical m.2) :: sorted).map Prod.fst) := by
      rw [List.map_append, List.map_append, List.map_cons, List.map_cons, List.cons_append]
      exact List.perm_middle.symm
    have new : m.1 ∉ sorted.map Prod.fst := by
      rw [List.map_append, List.map_cons, List.cons_append, List.nodup_cons, List.mem_append,
        not_or] at distinct
      exact distinct.1.2
    have moved : (ms ++ insertMember m.1 (canonical m.2) sorted).Perm
        (ms ++ (m.1, canonical m.2) :: sorted) :=
      (perm_insertMember new).append_left ms
    rw [canonicalMembers, List.map_cons, List.cons_append]
    have others := ih (((moved.map Prod.fst).nodup_iff).mpr (rotated.nodup_iff.mp distinct))
    exact (others.trans ((perm_insertMember new).append_left _)).trans List.perm_middle

/-- Where no name is given twice, the members are only put in order. -/
theorem perm_canonicalMembers (distinct : (ms.map Prod.fst).Nodup) :
    (canonicalMembers ms []).Perm (ms.map fun m => (m.1, canonical m.2)) := by
  have perm : (canonicalMembers ms []).Perm ((ms.map fun m => (m.1, canonical m.2)) ++ []) :=
    perm_canonicalMembers_append (by rwa [List.append_nil])
  rwa [List.append_nil] at perm

theorem inOrder_canonicalMembers (ms : List (String × Json)) : InOrder (canonicalMembers ms []) :=
  InOrder.canonicalMembers List.Pairwise.nil ms

theorem InOrder.nodup (h : InOrder ms) : (ms.map Prod.fst).Nodup := by
  refine List.pairwise_map.mpr (h.imp fun {m m'} before same => ?_)
  rw [same] at before
  exact String.lt_irrefl _ before

/-- Members in order whose values are canonical stay as they are. -/
theorem InOrder.canonicalMembers_eq (h : InOrder ms) (values : ∀ m ∈ ms, m.2.canonical = m.2) :
    Json.canonicalMembers ms [] = ms := by
  have perm := perm_canonicalMembers h.nodup
  have same : (ms.map fun m => (m.1, canonical m.2)) = ms :=
    (List.map_congr_left fun m hm => congrArg (Prod.mk m.1) (values m hm)).trans (List.map_id ms)
  rw [same] at perm
  refine perm.eq_of_pairwise (fun m m' _ _ before after => ?_) (inOrder_canonicalMembers ms) h
  exact absurd after (String.lt_asymm before)

/-! ## Values -/

theorem canonicalItems_eq_map (items : List Json) : canonicalItems items = items.map canonical := by
  induction items with
  | nil => rfl
  | cons item items ih => rw [canonicalItems, ih, List.map_cons]

/-- A list of values that are their own canonical values is so too. -/
theorem canonical_array {items : List Json} (h : ∀ item ∈ items, item.canonical = item) :
    (Json.array items).canonical = .array items := by
  rw [canonical, canonicalItems_eq_map, List.map_congr_left h, List.map_id']

mutual

/-- A canonical value is its own canonical value. -/
theorem canonical_canonical : ∀ j : Json, j.canonical.canonical = j.canonical
  | .null | .bool _ | .number _ | .string _ => rfl
  | .array items => by
    rw [canonical, canonicalItems_eq_map]
    exact canonical_array (List.forall_mem_map.mpr (canonical_canonical_of_mem items))
  | .object members => by
    rw [canonical, canonical]
    refine congrArg Json.object ((inOrder_canonicalMembers members).canonicalMembers_eq ?_)
    intro m hm
    rcases exists_of_mem_canonicalMembers hm with hm | ⟨m', hm', rfl⟩
    · cases hm
    · exact canonical_canonical_of_mem_members members m' hm'

theorem canonical_canonical_of_mem :
    ∀ items : List Json, ∀ item ∈ items, item.canonical.canonical = item.canonical
  | [] => fun _ h => nomatch h
  | item :: items =>
    List.forall_mem_cons.mpr ⟨canonical_canonical item, canonical_canonical_of_mem items⟩

theorem canonical_canonical_of_mem_members :
    ∀ members : List (String × Json), ∀ m ∈ members, m.2.canonical.canonical = m.2.canonical
  | [] => fun _ h => nomatch h
  | (_, value) :: members =>
    List.forall_mem_cons.mpr
      ⟨canonical_canonical value, canonical_canonical_of_mem_members members⟩

end

end EstateFiling.Json
