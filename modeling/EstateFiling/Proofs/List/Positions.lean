import Mathlib.Data.List.Forall2

/-!
# Lists by position

What is done for each element of a list, with its position in hand: maps over what was done,
what is read off it, and lists of it put together.
-/

namespace EstateFiling

theorem mapIdx_of_item {α β : Type} (f : α → β) (xs : List α) :
    xs.mapIdx (fun _ a => f a) = xs.map f :=
  List.ext_getElem (by simp) (by simp)

theorem map_mapIdx {α β γ : Type} (f : Nat → α → β) (g : β → γ) (xs : List α) :
    (xs.mapIdx f).map g = xs.mapIdx fun i a => g (f i a) := by
  rw [← mapIdx_of_item, List.mapIdx_mapIdx]
  rfl

theorem mapIdx_of_position {α β : Type} (f : Nat → β) (xs : List α) :
    xs.mapIdx (fun i _ => f i) = (List.range xs.length).map f :=
  List.ext_getElem (by simp) (by simp)

/-- Lists that do not depend on the position, put together. -/
theorem flatMap_mapIdx {α β γ : Type} {f : Nat → α → β} {g : β → List γ} {h : α → List γ}
    (hf : ∀ i a, g (f i a) = h a) (xs : List α) : (xs.mapIdx f).flatMap g = xs.flatMap h := by
  induction xs generalizing f with
  | nil => rfl
  | cons x xs ih =>
    rw [List.mapIdx_cons, List.flatMap_cons, List.flatMap_cons, hf,
      ih (f := fun i a => f (i + 1) a) fun i a => hf (i + 1) a]

/-- Lists of one element each, put together. -/
theorem flatMap_mapIdx_singleton {α β γ : Type} {f : Nat → α → β} {g : β → List γ}
    {h : Nat → α → γ} (single : ∀ i a, g (f i a) = [h i a]) (xs : List α) :
    (xs.mapIdx f).flatMap g = xs.mapIdx h := by
  induction xs generalizing f h with
  | nil => rfl
  | cons x xs ih =>
    rw [List.mapIdx_cons, List.flatMap_cons, List.mapIdx_cons, single,
      ih fun i a => single (i + 1) a]
    rfl

/-- Pairs at the same position are related if they are at each position. -/
theorem forall₂_mapIdx {α β : Type} {r : α → β → Prop} {f : Nat → α → β} {xs : List α}
    (h : ∀ i a, r a (f i a)) : List.Forall₂ r xs (xs.mapIdx f) := by
  induction xs generalizing f with
  | nil => exact .nil
  | cons x xs ih =>
    rw [List.mapIdx_cons]
    exact .cons (h 0 x) (ih fun i a => h (i + 1) a)

/-- Items each of which is read. -/
theorem filterMap_mapIdx {α β γ : Type} {f : Nat → α → β} {read : β → Option γ}
    {g : Nat → α → γ} (h : ∀ i a, read (f i a) = some (g i a)) (xs : List α) :
    (xs.mapIdx f).filterMap read = xs.mapIdx g := by
  induction xs generalizing f g with
  | nil => rfl
  | cons x xs ih =>
      rw [List.mapIdx_cons, List.mapIdx_cons, List.filterMap_cons_some (h 0 x),
        ih (f := fun i => f (i + 1)) (g := fun i => g (i + 1)) fun i a => h (i + 1) a]

theorem filterMap_mapIdx_eq_nil {α β γ : Type} {f : Nat → α → β} {read : β → Option γ}
    (h : ∀ i a, read (f i a) = none) (xs : List α) : (xs.mapIdx f).filterMap read = [] := by
  refine List.filterMap_eq_nil_iff.mpr fun b hb => ?_
  obtain ⟨i, _, rfl⟩ := List.mem_mapIdx.mp hb
  exact h i _

theorem filterMap_flatten_mapIdx_eq_nil {α β γ : Type} {f : Nat → α → List β}
    {read : β → Option γ} (h : ∀ i a, (f i a).filterMap read = []) (xs : List α) :
    (xs.mapIdx f).flatten.filterMap read = [] := by
  rw [List.filterMap_flatten, map_mapIdx, List.flatten_eq_nil_iff]
  intro ys hys
  obtain ⟨i, _, rfl⟩ := List.mem_mapIdx.mp hys
  exact h i _

end EstateFiling
