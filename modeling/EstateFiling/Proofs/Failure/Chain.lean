import Mathlib.Data.List.Basic
import Mathlib.Tactic.Tauto

/-!
# Chains of steps

Steps that can fail are taken one after the other, and the first that fails decides
(`FirstFailure`).  A computation *fails by* some steps if its failures are those
(`FailsBy`).  A chain fails by the steps of its parts in their order (`FailsBy.bind`), so the
steps of a whole program are those of its functions put together.  It gives something exactly
if no step fails (`FailsBy.exists_ok_iff`).
-/

namespace EstateFiling

section Chains

variable {ε α β : Type} {x : Except ε α} {next : α → Except ε β}

/-- A step that succeeds hands on a value. -/
theorem exists_of_bind_ok {b : β} (h : (x >>= next) = .ok b) :
    ∃ a, x = .ok a ∧ next a = .ok b := by
  cases x with
  | error e => cases h
  | ok a => exact ⟨a, rfl, h⟩

/-- A chain fails with its first step, or after it. -/
theorem bind_eq_error_iff {e : ε} :
    x >>= next = .error e ↔ x = .error e ∨ ∃ a, x = .ok a ∧ next a = .error e := by
  cases x with
  | error e' => simp [bind, Except.bind]
  | ok a => simp [bind, Except.bind]

theorem mapError_eq_error_iff {ε' : Type} {f : ε → ε'} {e' : ε'} :
    x.mapError f = .error e' ↔ ∃ e, x = .error e ∧ e' = f e := by
  cases x <;> simp [Except.mapError, eq_comm]

theorem map_eq_error_iff {f : α → β} {e : ε} : x.map f = .error e ↔ x = .error e := by
  cases x <;> simp [Except.map]

theorem mapError_eq_ok_iff {ε' : Type} {f : ε → ε'} {a : α} :
    x.mapError f = .ok a ↔ x = .ok a := by
  cases x <;> simp [Except.mapError]

/-- A step gives something unless it fails. -/
theorem exists_eq_ok_iff : (∃ a, x = .ok a) ↔ ∀ e, x ≠ .error e := by
  cases x <;> simp

end Chains

/-! ## The first step that fails -/

section Steps

variable {σ ε : Type} [DecidableEq σ]

/-- A step is the first of some steps that fails. -/
structure FailsFirst (fails : σ → ε → Prop) (steps : List σ) (step : σ) (e : ε) : Prop where
  /-- It is one of the steps. -/
  isStep : step ∈ steps
  /-- It fails. -/
  failed : fails step e
  /-- No step before it does. -/
  before : ∀ s ∈ steps.takeWhile (· != step), ∀ e', ¬ fails s e'

/-- A failure is that of the first of some steps that fails. -/
def FirstFailure (fails : σ → ε → Prop) (steps : List σ) (e : ε) : Prop :=
  ∃ step, FailsFirst fails steps step e

variable {fails : σ → ε → Prop} {steps : List σ} {step : σ} {e : ε}

/-- Only the steps up to the one that fails count. -/
theorem FailsFirst.congr {fails' : σ → ε → Prop} (h : FailsFirst fails steps step e)
    (same : ∀ s ∈ steps.takeWhile (· != step) ++ [step], ∀ e, fails' s e ↔ fails s e) :
    FailsFirst fails' steps step e where
  isStep := h.isStep
  failed := (same step (by simp) e).mpr h.failed
  before s earlier e' failed :=
    h.before s earlier e' ((same s (List.mem_append_left _ earlier) e').mp failed)

theorem not_firstFailure_nil : ¬ FirstFailure fails [] e :=
  fun ⟨_, h⟩ => List.not_mem_nil h.isStep

theorem takeWhile_ne_cons {s : σ} (h : step ≠ s) :
    (step :: steps).takeWhile (· != s) = step :: steps.takeWhile (· != s) :=
  List.takeWhile_cons_of_pos (bne_iff_ne.mpr h)

theorem firstFailure_cons :
    FirstFailure fails (step :: steps) e ↔
      fails step e ∨ (∀ e', ¬ fails step e') ∧ FirstFailure fails steps e := by
  constructor
  · rintro ⟨s, isStep, failed, before⟩
    by_cases same : step = s
    · exact .inl (same ▸ failed)
    · rw [takeWhile_ne_cons same, List.forall_mem_cons] at before
      exact .inr ⟨before.1, s, List.mem_of_ne_of_mem (Ne.symm same) isStep, failed, before.2⟩
  · rintro (failed | ⟨good, s, isStep, failed, before⟩)
    · exact ⟨step, List.mem_cons_self, failed, by simp⟩
    · have differs : step ≠ s := fun same => good e (same ▸ failed)
      refine ⟨s, List.mem_cons_of_mem _ isStep, failed, ?_⟩
      rw [takeWhile_ne_cons differs, List.forall_mem_cons]
      exact ⟨good, before⟩

theorem forall_not_firstFailure_cons :
    (∀ e, ¬ FirstFailure fails (step :: steps) e) ↔
      (∀ e, ¬ fails step e) ∧ ∀ e, ¬ FirstFailure fails steps e := by
  simp only [firstFailure_cons, not_or, forall_and]
  exact and_congr_right fun good => forall_congr' fun _ => not_congr (and_iff_right good)

/-- If no step fails, there is no first one that does. -/
theorem forall_not_firstFailure_iff :
    (∀ e, ¬ FirstFailure fails steps e) ↔ ∀ s ∈ steps, ∀ e, ¬ fails s e := by
  induction steps with
  | nil => simp [not_firstFailure_nil]
  | cons step steps ih => rw [forall_not_firstFailure_cons, ih, List.forall_mem_cons]

/-- The first of the steps that fails is among the ones in front, or none of those fails. -/
theorem firstFailure_append {others : List σ} :
    FirstFailure fails (steps ++ others) e ↔
      FirstFailure fails steps e
      ∨ (∀ e', ¬ FirstFailure fails steps e') ∧ FirstFailure fails others e := by
  induction steps with
  | nil => simp [not_firstFailure_nil]
  | cons step steps ih =>
    rw [List.cons_append, firstFailure_cons, ih, firstFailure_cons, forall_not_firstFailure_cons]
    tauto

end Steps

/-! ## Computations -/

/-- A computation fails exactly as the first of some steps that fails. -/
def FailsBy {σ ε α : Type} [DecidableEq σ] (x : Except ε α) (fails : σ → ε → Prop)
    (steps : List σ) : Prop :=
  ∀ e, x = .error e ↔ FirstFailure fails steps e

namespace FailsBy

variable {σ ε α β : Type} [DecidableEq σ] {fails : σ → ε → Prop} {steps others : List σ}
  {x : Except ε α}

/-- What cannot fail has no steps. -/
theorem ok (a : α) : FailsBy (.ok a) fails [] := by
  intro e
  simp [not_firstFailure_nil]

/-- A step that does not fail need not be counted. -/
theorem skip {step : σ} (good : ∀ e, ¬ fails step e) (h : FailsBy x fails steps) :
    FailsBy x fails (step :: steps) := by
  intro e
  rw [h e, firstFailure_cons, or_iff_right (good e), and_iff_right good]

theorem single {step : σ} (h : ∀ e, x = .error e ↔ fails step e) : FailsBy x fails [step] := by
  intro e
  rw [firstFailure_cons, h e]
  simp [not_firstFailure_nil]

/-- After a step that fails, no other counts. -/
theorem stop {step : σ} {e : ε} (h : ∀ e', fails step e' ↔ e' = e) :
    FailsBy (.error e : Except ε α) fails (step :: steps) := by
  intro e'
  rw [firstFailure_cons, h e']
  have failed : ¬ ∀ e', ¬ fails step e' := fun good => good e ((h e).mpr rfl)
  simp [failed, eq_comm]

/-- A chain takes the steps of its parts in their order. -/
theorem bind {next : α → Except ε β} (first : FailsBy x fails steps)
    (rest : ∀ a, x = .ok a → FailsBy (next a) fails others) :
    FailsBy (x >>= next) fails (steps ++ others) := by
  intro e
  rw [bind_eq_error_iff, firstFailure_append, ← first e]
  simp only [← first _, ← exists_eq_ok_iff]
  refine or_congr_right ⟨?_, ?_⟩
  · rintro ⟨a, gives, failed⟩
    exact ⟨⟨a, gives⟩, (rest a gives e).mp failed⟩
  · rintro ⟨⟨a, gives⟩, failed⟩
    exact ⟨a, gives, (rest a gives e).mpr failed⟩

/-- A computation gives something if no step fails, and only then. -/
theorem exists_ok_iff (h : FailsBy x fails steps) :
    (∃ a, x = .ok a) ↔ ∀ s ∈ steps, ∀ e, ¬ fails s e := by
  rw [exists_eq_ok_iff, ← forall_not_firstFailure_iff]
  exact forall_congr' fun e => not_congr (h e)

end FailsBy

end EstateFiling
