import EstateFiling.Proofs.Failure.Chain
import EstateFiling.Settings.Basic

/-!
# What can be wrong with the settings

Two values of the environment are checked when the settings are read: the port, and after it
the font size (`Settings.ofEnvironment_eq_error_iff`).  A value that is not given is never
wrong, since its default is in order.
-/

namespace EstateFiling

/-- The port that is given is not a 16-bit number. -/
def Environment.BadPort (e : Environment) : Prop :=
  ∃ raw, e.get? "APP_PORT" = some raw ∧ word16? raw = none

/-- The font size that is given is not a number of points in range. -/
def Environment.BadFontSize (e : Environment) (raw : String) : Prop :=
  e.get? "DOCS_FONT_SIZE" = some raw
    ∧ ∀ size, word16? (Text.trim raw) = some size →
      size.toNat < smallestFont ∨ largestFont < size.toNat

variable {e : Environment} {fault : SettingsFault}

namespace DocumentSettings

theorem fontSize_eq_error_iff {raw : String} :
    fontSize raw = .error fault ↔
      (∀ size, word16? (Text.trim raw) = some size →
        size.toNat < smallestFont ∨ largestFont < size.toNat)
      ∧ fault = .invalidFontSize raw := by
  unfold fontSize
  cases word16? (Text.trim raw) with
  | none => simp [eq_comm]
  | some size =>
    by_cases range : smallestFont ≤ size.toNat ∧ size.toNat ≤ largestFont
    · have inside : ¬ (size.toNat < smallestFont ∨ largestFont < size.toNat) := by omega
      simp [range, inside]
    · have outside : size.toNat < smallestFont ∨ largestFont < size.toNat := by omega
      simp [range, outside, eq_comm]

theorem ofEnvironment_eq_error_iff :
    ofEnvironment e = .error fault ↔ ∃ raw, e.BadFontSize raw ∧ fault = .invalidFontSize raw := by
  unfold ofEnvironment Environment.BadFontSize
  cases e.get? "DOCS_FONT_SIZE" with
  | none => simp [bind_eq_error_iff]
  | some raw => simp [bind_eq_error_iff, fontSize_eq_error_iff, and_assoc]

end DocumentSettings

namespace Settings

/-- The settings are refused for the port, or else for the font size. -/
theorem ofEnvironment_eq_error_iff :
    ofEnvironment e = .error fault ↔
      e.BadPort ∧ fault = .invalidPort
      ∨ ¬ e.BadPort ∧ ∃ raw, e.BadFontSize raw ∧ fault = .invalidFontSize raw := by
  have standard : word16? "3000" = some 3000 := by decide
  unfold ofEnvironment Environment.BadPort
  rw [← DocumentSettings.ofEnvironment_eq_error_iff]
  cases e.get? "APP_PORT" with
  | none => simp [bind_eq_error_iff, standard]
  | some raw =>
    cases port : word16? raw with
    | none => simpa [bind_eq_error_iff, port] using eq_comm
    | some port => simp [bind_eq_error_iff, port]

/-- Of a bad font size and a bad port, the port is told. -/
example : ofEnvironment ⟨[("DOCS_FONT_SIZE", "4"), ("APP_PORT", "none")]⟩ =
    .error .invalidPort := by decide

end Settings

end EstateFiling
