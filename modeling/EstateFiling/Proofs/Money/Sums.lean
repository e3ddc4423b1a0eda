import EstateFiling.Proofs.Money.Reading
import Mathlib.Data.List.Basic

/-!
# Sums of amounts

A sum is held within the range at every step, so for amounts of either sign it
depends on the order: what is cut off at one end is missing when the sum turns
back.  Among amounts that are not below zero nothing turns back.  The sum is then
the exact sum, cut off once at the largest amount (`Money.cents_sum`), and does
not depend on the order (`Money.sum_perm`) or on subtotals taken on the way
(`Money.sum_map_sum`).
-/

namespace EstateFiling.Money

variable {a b : Money} {ms ns : List Money}

/-! ## Exact sums -/

/-- The sum of amounts in cents, without bounds. -/
def exactSum (ms : List Money) : Int := ms.foldr (fun m rest => m.cents + rest) 0

@[simp] theorem exactSum_nil : exactSum [] = 0 := rfl

@[simp] theorem exactSum_cons (m : Money) (ms : List Money) :
    exactSum (m :: ms) = m.cents + exactSum ms := rfl

@[simp] theorem exactSum_append (ms ns : List Money) :
    exactSum (ms ++ ns) = exactSum ms + exactSum ns := by
  induction ms with
  | nil => exact (Int.zero_add _).symm
  | cons m ms ih => rw [List.cons_append, exactSum_cons, ih, exactSum_cons, Int.add_assoc]

theorem exactSum_perm (h : ms.Perm ns) : exactSum ms = exactSum ns := by
  induction h with
  | nil => rfl
  | cons m _ ih => rw [exactSum_cons, ih, exactSum_cons]
  | swap m n ms => exact Int.add_left_comm ..
  | trans _ _ first second => exact first.trans second

theorem exactSum_nonneg (h : ∀ m ∈ ms, 0 ≤ m.cents) : 0 ≤ exactSum ms := by
  induction ms with
  | nil => exact Int.le_refl 0
  | cons m ms ih =>
    obtain ⟨hm, hms⟩ := List.forall_mem_cons.mp h
    exact Int.add_nonneg hm (ih hms)

theorem le_exactSum (h : ∀ m ∈ ms, 0 ≤ m.cents) (ha : a ∈ ms) : a.cents ≤ exactSum ms := by
  induction ms with
  | nil => cases ha
  | cons m ms ih =>
    obtain ⟨hm, hms⟩ := List.forall_mem_cons.mp h
    have rest := exactSum_nonneg hms
    rw [exactSum_cons]
    rcases List.mem_cons.mp ha with rfl | ha
    · omega
    · have := ih hms ha
      omega

/-! ## One step -/

theorem cents_le_maximum (m : Money) : m.cents ≤ maximum.cents := Int.le_of_lt_add_one m.upper

/-- Two amounts that are not below zero add up to their exact sum or to the
largest amount. -/
theorem cents_add (ha : 0 ≤ a.cents) (hb : 0 ≤ b.cents) :
    (a + b).cents = min (a.cents + b.cents) maximum.cents := by
  show max (-0x8000000000000000) (min (a.cents + b.cents) maximum.cents) = _
  refine Int.max_eq_right (Int.le_min.mpr ⟨?_, by decide⟩)
  omega

theorem add_nonneg (ha : 0 ≤ a.cents) (hb : 0 ≤ b.cents) : 0 ≤ (a + b).cents := by
  rw [cents_add ha hb]
  exact Int.le_min.mpr ⟨Int.add_nonneg ha hb, by decide⟩

/-- Amounts that are not below zero have an exact difference. -/
theorem cents_sub (ha : 0 ≤ a.cents) (hb : 0 ≤ b.cents) :
    (a - b).cents = a.cents - b.cents := by
  have upper := a.upper
  have lower := b.upper
  show max (-0x8000000000000000) (min (a.cents - b.cents) 0x7fffffffffffffff) = _
  omega

theorem add_zero (m : Money) : add m zero = m := by
  have upper := m.upper
  have lower := m.lower
  refine Money.ext ?_
  show max (-0x8000000000000000) (min (m.cents + 0) 0x7fffffffffffffff) = m.cents
  omega

theorem zero_add (m : Money) : add zero m = m := by
  have comm : add zero m = add m zero := congrArg clamp (Int.add_comm ..)
  rw [comm, add_zero]

/-! ## Whole lists -/

theorem sum_singleton (m : Money) : sum [m] = m := zero_add m

theorem sum_pair (a b : Money) : sum [a, b] = a + b := congrArg (add · b) (zero_add a)

/-- Adding a list to an amount, nothing below zero: the exact sum, cut off once. -/
theorem cents_foldl_add (ha : 0 ≤ a.cents) (h : ∀ m ∈ ms, 0 ≤ m.cents) :
    (ms.foldl add a).cents = min (a.cents + exactSum ms) maximum.cents := by
  induction ms generalizing a with
  | nil =>
    have bound := a.cents_le_maximum
    rw [List.foldl_nil, exactSum_nil]
    omega
  | cons m ms ih =>
    obtain ⟨hm, hms⟩ := List.forall_mem_cons.mp h
    have step : (add a m).cents = min (a.cents + m.cents) maximum.cents := cents_add ha hm
    have next : 0 ≤ (add a m).cents := add_nonneg ha hm
    have rest := exactSum_nonneg hms
    rw [List.foldl_cons, ih next hms, step, exactSum_cons]
    omega

/-- The sum of amounts that are not below zero. -/
theorem cents_sum (h : ∀ m ∈ ms, 0 ≤ m.cents) :
    (sum ms).cents = min (exactSum ms) maximum.cents := by
  have fold := cents_foldl_add (a := zero) (Int.le_refl 0) h
  rwa [show zero.cents = 0 from rfl, Int.zero_add] at fold

theorem sum_nonneg (h : ∀ m ∈ ms, 0 ≤ m.cents) : 0 ≤ (sum ms).cents := by
  rw [cents_sum h]
  exact Int.le_min.mpr ⟨exactSum_nonneg h, by decide⟩

/-- A sum is at least each of its amounts. -/
theorem le_sum (h : ∀ m ∈ ms, 0 ≤ m.cents) (ha : a ∈ ms) : a.cents ≤ (sum ms).cents := by
  rw [cents_sum h]
  exact Int.le_min.mpr ⟨le_exactSum h ha, a.cents_le_maximum⟩

/-- The order does not matter. -/
theorem sum_perm (h : ∀ m ∈ ms, 0 ≤ m.cents) (reordered : ms.Perm ns) : sum ms = sum ns := by
  have h' : ∀ m ∈ ns, 0 ≤ m.cents := fun m hm => h m (reordered.mem_iff.mpr hm)
  refine Money.ext ?_
  rw [cents_sum h, cents_sum h', exactSum_perm reordered]

/-- With amounts of either sign the order does matter. -/
example : sum [maximum, clamp 1, clamp (-1)] ≠ sum [clamp (-1), clamp 1, maximum] := by
  decide

/-- Subtotals do not matter. -/
theorem sum_map_sum {mss : List (List Money)} (h : ∀ ms ∈ mss, ∀ m ∈ ms, 0 ≤ m.cents) :
    sum (mss.map sum) = sum mss.flatten := by
  have subtotals : ∀ m ∈ mss.map sum, 0 ≤ m.cents :=
    List.forall_mem_map.mpr fun ms hms => sum_nonneg (h ms hms)
  have all : ∀ m ∈ mss.flatten, 0 ≤ m.cents := List.forall_mem_flatten.mpr h
  refine Money.ext ?_
  rw [cents_sum subtotals, cents_sum all]
  clear subtotals all
  -- A subtotal that was cut off makes the whole sum reach the largest amount.
  induction mss with
  | nil => rfl
  | cons ms mss ih =>
    obtain ⟨hms, hmss⟩ := List.forall_mem_cons.mp h
    have first := cents_sum hms
    have here := exactSum_nonneg hms
    have others : 0 ≤ exactSum mss.flatten := exactSum_nonneg (List.forall_mem_flatten.mpr hmss)
    have subtotals : 0 ≤ exactSum (mss.map sum) :=
      exactSum_nonneg (List.forall_mem_map.mpr fun ns hns => sum_nonneg (hmss ns hns))
    have rest := ih hmss
    rw [List.map_cons, exactSum_cons, List.flatten_cons, exactSum_append, first]
    omega

end EstateFiling.Money
