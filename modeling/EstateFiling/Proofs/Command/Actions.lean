import EstateFiling.Command.Action
import EstateFiling.Proofs.Failure.Chain

/-!
# Actions that only read

An action *reads by* some steps if it has no effects and its failures are those of the steps
(`Action.ReadsBy`).  Actions that read one after the other read by the steps of both
(`Action.ReadsBy.bind`), so that a program has no effects before its last part is a fact about
every part before it.
-/

namespace EstateFiling.Action

variable {α β σ : Type} [DecidableEq σ] {fails : σ → Failure → Prop} {step : σ}
  {steps others : List σ} {x : Action α}

/-- An action has no effects, and fails exactly as the first of some steps that fails. -/
def ReadsBy (x : Action α) (fails : σ → Failure → Prop) (steps : List σ) : Prop :=
  ∃ v : Except Failure α, x = liftM v ∧ FailsBy v fails steps

namespace ReadsBy

theorem lift {v : Except Failure α} (h : FailsBy v fails steps) :
    ReadsBy (liftM v) fails steps :=
  ⟨v, rfl, h⟩

theorem pure (a : α) : ReadsBy (Pure.pure a) fails ([] : List σ) :=
  lift (.ok a)

theorem skip (good : ∀ f, ¬ fails step f) (h : ReadsBy x fails steps) :
    ReadsBy x fails (step :: steps) := by
  obtain ⟨v, rfl, h⟩ := h
  exact lift (.skip good h)

theorem stop {f : Failure} (h : ∀ f', fails step f' ↔ f' = f) :
    ReadsBy (throw f : Action α) fails (step :: steps) :=
  lift (.stop h)

/-- What follows a computation reads by the steps after its own. -/
theorem bind_lift {v : Except Failure α} {next : α → Action β} (first : FailsBy v fails steps)
    (rest : ∀ a, v = .ok a → ReadsBy (next a) fails others) :
    ReadsBy (liftM v >>= next) fails (steps ++ others) := by
  cases v with
  | error f =>
    have whole : FailsBy ((.error f : Except Failure α) >>= fun _ => (.error f : Except Failure β))
        fails (steps ++ others) := first.bind fun _ gives => nomatch gives
    exact lift whole
  | ok a =>
    obtain ⟨v, same, second⟩ := rest a rfl
    have whole : FailsBy ((.ok a : Except Failure α) >>= fun _ => v) fails (steps ++ others) :=
      first.bind fun _ _ => second
    exact ⟨v, same, whole⟩

/-- Actions that read one after the other read by the steps of both. -/
theorem bind {next : α → Action β} (first : ReadsBy x fails steps)
    (rest : ∀ a, x = Pure.pure a → ReadsBy (next a) fails others) :
    ReadsBy (x >>= next) fails (steps ++ others) := by
  obtain ⟨v, rfl, failsBy⟩ := first
  exact bind_lift failsBy fun a gives => rest a (gives ▸ rfl)

/-- If no step fails, the action gives something. -/
theorem exists_pure (h : ReadsBy x fails steps) (good : ∀ s ∈ steps, ∀ f, ¬ fails s f) :
    ∃ a, x = Pure.pure a := by
  obtain ⟨v, rfl, failsBy⟩ := h
  obtain ⟨a, rfl⟩ := failsBy.exists_ok_iff.mpr good
  exact ⟨a, rfl⟩

end ReadsBy

end EstateFiling.Action
