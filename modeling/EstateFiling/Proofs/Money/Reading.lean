import EstateFiling.Json.Scalars

/-!
# Amounts that are read

An amount is read from a whole number of dollars, from a double that counts
dollars, or from a text as people write amounts.  The type of amounts allows those
below zero; no reading finds one (`Json.moneyAmount?_nonneg`).

Each reading forms its cents from naturals.  A whole number and a text give them
exactly or not at all (`Money.cents_of_ofCents?`), a double gives the nearest
amount in range (`Money.clamp_nonneg`).
-/

namespace EstateFiling

namespace Money

variable {m : Money}

/-- An amount made from cents has these cents. -/
theorem cents_of_ofCents? {cents : Int} (h : ofCents? cents = some m) : m.cents = cents := by
  unfold ofCents? at h
  split at h
  · cases h
    rfl
  · cases h

/-- An amount is in range. -/
theorem ofCents?_cents (m : Money) : ofCents? m.cents = some m := dif_pos ⟨m.lower, m.upper⟩

theorem clamp_nonneg {cents : Int} (h : 0 ≤ cents) : 0 ≤ (clamp cents).cents := by
  show 0 ≤ max (-0x8000000000000000) (min cents 0x7fffffffffffffff)
  omega

theorem ofDollars?_nonneg {dollars : Nat} (h : ofDollars? dollars = some m) : 0 ≤ m.cents := by
  rw [cents_of_ofCents? h]
  omega

theorem parse?_nonneg {s : String} (h : parse? s = some m) : 0 ≤ m.cents := by
  unfold parse? at h
  dsimp only at h
  split at h
  · cases h
  · rw [cents_of_ofCents? h]
    omega

theorem ofDouble?_nonneg {x : Double} (h : ofDouble? x = some m) : 0 ≤ m.cents := by
  cases x with
  | infinite _ => cases h
  | nan => cases h
  | finite dollars =>
    unfold ofDouble? at h
    dsimp only at h
    split at h
    · cases h
    · -- The cents are a magnitude, so the sign of the double is gone.
      split at h
      · split at h
        · cases h
          exact clamp_nonneg (Int.natCast_nonneg _)
        · cases h
      · cases h

end Money

/-- The loose reading of amounts finds none below zero. -/
theorem Json.moneyAmount?_nonneg {j : Json} {m : Money} (h : j.moneyAmount? = some m) :
    0 ≤ m.cents := by
  cases j with
  | number n =>
    simp only [moneyAmount?] at h
    split at h
    · exact Money.ofDollars?_nonneg h
    · exact Money.ofDouble?_nonneg h
  | string s => exact Money.parse?_nonneg h
  | null => cases h
  | bool _ => cases h
  | array _ => cases h
  | object _ => cases h

end EstateFiling
