import EstateFiling.Number.Double
import Mathlib.Algebra.Order.Field.Power
import Mathlib.Algebra.Order.Round
import Mathlib.Data.Rat.Floor
import Mathlib.Tactic.FieldSimp
import Mathlib.Tactic.Linarith
import Mathlib.Tactic.NormNum
import Mathlib.Tactic.Positivity
import Mathlib.Tactic.Ring

/-!
# Rounding to doubles

`Binary64.value` is the rational that a finite double stands for, and `Double.IsRounding`
the rounding of IEEE 754 to nearest: the double is nearest among all doubles, a tie goes to
the even mantissa, and from halfway between the largest double and the next power of two on
the result is infinite.  Rounding determines the value (`Double.IsRounding.value_eq`).

The algorithm picks an exponent so that the ratio has 53 bits before the point, or is too
small for that (`Binary64.gridExponent_spec`), and rounds to a multiple of that power of two.
`RoundsTo` says this of a rational.  Doubles with this exponent or a larger one are such
multiples, and doubles with a smaller one are too small to be near, so every double but the
one of the multiple is at least half a step away (`RoundsTo.half_le_dist`).  Hence ratios,
products and integers are rounded as IEEE 754 says (`Binary64.isRounding_ofRatio`,
`isRounding_mul`, `isRounding_ofInt`).
-/

namespace EstateFiling

namespace Binary64

variable {x y : Binary64} {q : ℚ} {e : ℤ} {r num den : ℕ}

/-! ## Values -/

/-- The factor that a sign stands for. -/
def signFactor (negative : Bool) : ℚ := if negative then -1 else 1

/-- The number that a double stands for. -/
def value (x : Binary64) : ℚ := signFactor x.negative * (x.mantissa * 2 ^ x.exponent)

/-- The mantissas and exponents of doubles. -/
structure IsCanonical (x : Binary64) : Prop where
  /-- A mantissa has 53 bits. -/
  mantissa_lt : x.mantissa < 2 ^ 53
  /-- The least exponent. -/
  le_exponent : -1074 ≤ x.exponent
  /-- The greatest exponent. -/
  exponent_le : x.exponent ≤ 971
  /-- The first bit is set, unless the exponent is the least one. -/
  normal : 2 ^ 52 ≤ x.mantissa ∨ x.exponent = -1074

/-- A double is nearest to a number: no double is nearer, and where another one is as near
the mantissa is even. -/
structure IsNearest (q : ℚ) (x : Binary64) : Prop where
  /-- The double has a mantissa and an exponent of doubles. -/
  canonical : x.IsCanonical
  /-- No double is nearer. -/
  le_dist : ∀ y : Binary64, y.IsCanonical → |q - x.value| ≤ |q - y.value|
  /-- A tie goes to the even mantissa. -/
  even_of_tie : ∀ y : Binary64, y.IsCanonical → y.value ≠ x.value →
    |q - y.value| = |q - x.value| → Even x.mantissa

/-- Halfway between the largest double and the next power of two. -/
def overflow : ℚ := (2 ^ 54 - 1) * 2 ^ (970 : ℤ)

end Binary64

/-- A double is the rounding of a number to nearest. -/
def Double.IsRounding (q : ℚ) : Double → Prop
  | .finite x => |q| < Binary64.overflow ∧ x.IsNearest q
  | .infinite negative => Binary64.overflow ≤ |q| ∧ (negative = true ↔ q < 0)
  | .nan => False

namespace Binary64

variable {x y : Binary64} {q : ℚ} {e : ℤ} {r num den : ℕ}

/-! ## The other sign -/

@[simp] theorem value_neg (x : Binary64) : x.neg.value = -x.value := by
  unfold value neg signFactor
  cases x.negative <;> simp

theorem neg_neg_eq (x : Binary64) : x.neg.neg = x := by
  unfold neg
  rw [Bool.not_not]

theorem IsCanonical.neg (h : x.IsCanonical) : x.neg.IsCanonical :=
  ⟨h.mantissa_lt, h.le_exponent, h.exponent_le, h.normal⟩

/-- Rounding to nearest does not see the sign. -/
theorem IsNearest.neg (h : x.IsNearest q) : x.neg.IsNearest (-q) := by
  have mirrored (y : Binary64) : |-q - y.value| = |q - y.neg.value| := by
    rw [value_neg, ← abs_neg, neg_sub', neg_neg]
  refine ⟨h.canonical.neg, fun y hy => ?_, fun y hy other tie => ?_⟩
  · rw [mirrored, mirrored, neg_neg_eq]
    exact h.le_dist _ hy.neg
  · rw [mirrored, mirrored, neg_neg_eq] at tie
    refine h.even_of_tie _ hy.neg (fun same => other ?_) tie
    rw [value_neg, ← same, value_neg, neg_neg]

/-! ## Multiples of a power of two -/

/-- A double is a multiple of the powers of two up to its own. -/
theorem exists_value_eq_mul (h : e ≤ x.exponent) :
    ∃ k : ℤ, x.value = k * 2 ^ e ∧ (Even x.mantissa → Even k) := by
  obtain ⟨j, hj⟩ := Int.le.dest h
  have power : (2 : ℚ) ^ x.exponent = 2 ^ j * 2 ^ e := by
    rw [← hj, zpow_add₀ two_ne_zero, zpow_natCast, mul_comm]
  refine ⟨(if x.negative then -1 else 1) * (x.mantissa * 2 ^ j), ?_, fun even => ?_⟩
  · unfold value signFactor
    rw [power]
    split <;> push_cast <;> ring
  · exact (((Int.even_coe_nat _).mpr even).mul_right _).mul_left _

/-- A double with a smaller exponent is half a step below the least mantissa of 53 bits. -/
theorem value_le_of_exponent_lt (hx : x.IsCanonical) (h : x.exponent < e) :
    x.value + 2 ^ e / 2 ≤ 2 ^ 52 * 2 ^ e := by
  have whole : (2 : ℚ) ^ e = 2 ^ (e - 1) * 2 := by rw [← zpow_add_one₀ two_ne_zero, sub_add_cancel]
  have power : (2 : ℚ) ^ x.exponent ≤ 2 ^ (e - 1) := zpow_le_zpow_right₀ one_le_two (by omega)
  have mantissa : (x.mantissa : ℚ) ≤ 2 ^ 53 - 1 := by
    rw [le_sub_iff_add_le]
    exact_mod_cast hx.mantissa_lt
  have magnitude : (x.mantissa : ℚ) * 2 ^ x.exponent ≤ (2 ^ 53 - 1) * 2 ^ (e - 1) :=
    mul_le_mul mantissa power (by positivity) (by norm_num)
  have unsigned : x.value ≤ x.mantissa * 2 ^ x.exponent := by
    have : (0 : ℚ) ≤ x.mantissa * 2 ^ x.exponent := by positivity
    unfold value signFactor
    split <;> linarith
  rw [whole]
  linarith

/-- A number that is not below zero rounds to a multiple of a power of two, which is that of
the doubles around it. -/
structure RoundsTo (q : ℚ) (e : ℤ) (r : ℕ) : Prop where
  /-- The multiple is at most half a step away. -/
  dist_le : |q - r * 2 ^ e| ≤ 2 ^ e / 2
  /-- Halfway between two multiples, the factor is even. -/
  even_of_tie : |q - r * 2 ^ e| = 2 ^ e / 2 → Even r
  /-- The power is that of an exponent. -/
  le_exponent : -1074 ≤ e
  /-- There are at most 53 bits. -/
  lt : q < 2 ^ 53 * 2 ^ e
  /-- There are 53 bits, unless the exponent is the least one. -/
  normal : 2 ^ 52 * 2 ^ e ≤ q ∨ e = -1074

namespace RoundsTo

/-- Every other double is at least half a step away. -/
theorem half_le_dist (h : RoundsTo q e r) (hy : y.IsCanonical) (other : y.value ≠ r * 2 ^ e) :
    2 ^ e / 2 ≤ |q - y.value| := by
  have step : (0 : ℚ) < 2 ^ e := by positivity
  rcases lt_or_ge y.exponent e with finer | coarser
  · have above : 2 ^ 52 * 2 ^ e ≤ q := h.normal.resolve_right (by have := hy.le_exponent; omega)
    have below := value_le_of_exponent_lt hy finer
    exact le_trans (by linarith) (le_abs_self _)
  · obtain ⟨k, hk, -⟩ := exists_value_eq_mul coarser
    have apart : (2 : ℚ) ^ e ≤ |(r : ℚ) * 2 ^ e - k * 2 ^ e| := by
      have differ : (r : ℤ) - k ≠ 0 := by
        intro zero
        rw [hk, ← sub_eq_zero.mp zero, Int.cast_natCast] at other
        exact other rfl
      rw [← sub_mul, abs_mul, abs_of_pos step]
      refine le_mul_of_one_le_left step.le ?_
      exact_mod_cast Int.one_le_abs differ
    have triangle := abs_sub_le ((r : ℚ) * 2 ^ e) q (k * 2 ^ e)
    have near := h.dist_le
    rw [abs_sub_comm] at near
    rw [hk]
    linarith

/-- The double of the multiple is nearest. -/
theorem isNearest (h : RoundsTo q e r) (hx : x.IsCanonical) (value : x.value = r * 2 ^ e)
    (even : Even r → Even x.mantissa) : x.IsNearest q := by
  refine ⟨hx, fun y hy => ?_, fun y hy other tie => even (h.even_of_tie ?_)⟩
  · by_cases same : y.value = r * 2 ^ e
    · rw [value, same]
    · rw [value]
      exact h.dist_le.trans (h.half_le_dist hy same)
  · rw [value] at other tie
    exact le_antisymm h.dist_le (tie ▸ h.half_le_dist hy other)

/-- No other value is nearest. -/
theorem value_eq (h : RoundsTo q e r) (hx : x.IsCanonical) (value : x.value = r * 2 ^ e)
    (hy : y.IsNearest q) : y.value = r * 2 ^ e := by
  by_contra other
  have step : (0 : ℚ) < 2 ^ e := by positivity
  have far := h.half_le_dist hy.canonical other
  have near := hy.le_dist x hx
  rw [value] at near
  have distX : |q - r * 2 ^ e| = 2 ^ e / 2 := le_antisymm h.dist_le (far.trans near)
  have distY : |q - y.value| = 2 ^ e / 2 := le_antisymm (near.trans h.dist_le) far
  have evenR := h.even_of_tie distX
  have evenY : Even y.mantissa := hy.even_of_tie x hx (by rwa [value, ne_comm]) (by
    rw [value, distX, distY])
  rcases lt_or_ge y.exponent e with finer | coarser
  · -- The number is itself a multiple, so it is not half a step away from one.
    have above : 2 ^ 52 * 2 ^ e ≤ q :=
      h.normal.resolve_right (by have := hy.canonical.le_exponent; omega)
    have below := value_le_of_exponent_lt hy.canonical finer
    rw [abs_of_nonneg (by linarith)] at distY
    obtain ⟨j, hj⟩ : ∃ j : ℤ, (2 : ℚ) ^ 52 = j := ⟨2 ^ 52, by norm_num⟩
    rw [hj] at above below
    have multiple : q - r * 2 ^ e = (j - r) * 2 ^ e := by linarith
    rw [multiple, abs_mul, abs_of_pos step] at distX
    have half : 2 * |(j : ℚ) - r| = 1 := mul_right_cancel₀ step.ne' (by linarith)
    have : 2 * |j - (r : ℤ)| = 1 := by exact_mod_cast half
    omega
  · -- Two neighbouring multiples are not both even.
    obtain ⟨k, hk, evenK⟩ := exists_value_eq_mul coarser
    rw [hk] at distY other
    have neighbours : k - (r : ℤ) = 1 ∨ k - (r : ℤ) = -1 := by
      have cancel {a b : ℚ} (same : a * 2 ^ e = b * 2 ^ e) : a = b :=
        mul_right_cancel₀ step.ne' same
      have half : (0 : ℚ) ≤ 2 ^ e / 2 := by positivity
      rcases (abs_eq half).mp distX with hr | hr <;> rcases (abs_eq half).mp distY with hy | hy
      · exact absurd (by linarith) other
      · left
        exact_mod_cast cancel (a := k - r) (b := 1) (by linarith)
      · right
        exact_mod_cast cancel (a := k - r) (b := -1) (by linarith)
      · exact absurd (by linarith) other
    obtain ⟨i, rfl⟩ := evenK evenY
    obtain ⟨j, rfl⟩ := evenR
    omega

theorem le_two_pow (h : RoundsTo q e r) : r ≤ 2 ^ 53 := by
  have step : (0 : ℚ) < 2 ^ e := by positivity
  have near := neg_le_of_abs_le h.dist_le
  have scaled : (r : ℚ) * 2 ^ e < (2 ^ 53 + 1) * 2 ^ e := by linarith [h.lt]
  have lt := lt_of_mul_lt_mul_right scaled step.le
  exact Nat.le_of_lt_succ (by exact_mod_cast lt)

theorem two_pow_le (h : RoundsTo q e r) : 2 ^ 52 ≤ r ∨ e = -1074 := by
  refine h.normal.imp_left fun above => ?_
  have step : (0 : ℚ) < 2 ^ e := by positivity
  have near := le_of_abs_le h.dist_le
  have scaled : (2 ^ 52 : ℚ) * 2 ^ e < (r + 1) * 2 ^ e := by linarith
  have lt := lt_of_mul_lt_mul_right scaled step.le
  exact Nat.le_of_lt_succ (by exact_mod_cast lt)

end RoundsTo

/-! ## The double of a multiple -/

/-- A multiple of a power of two as a double; 54 bits are the least mantissa of the next
power. -/
def onGrid (negative : Bool) (r : ℕ) (e : ℤ) : Binary64 :=
  if r == 0x20000000000000 then ⟨negative, 0x10000000000000, e + 1⟩ else ⟨negative, r, e⟩

theorem onGrid_true (r : ℕ) (e : ℤ) : onGrid true r e = (onGrid false r e).neg := by
  unfold onGrid
  split <;> rfl

theorem value_onGrid (r : ℕ) (e : ℤ) : (onGrid false r e).value = r * 2 ^ e := by
  unfold onGrid
  split
  · rename_i full
    rw [value, signFactor, beq_iff_eq.mp full, zpow_add_one₀ two_ne_zero]
    norm_num
    ring
  · exact one_mul _

theorem exponent_onGrid (negative : Bool) (r : ℕ) (e : ℤ) :
    (onGrid negative r e).exponent = (onGrid false r e).exponent := by
  unfold onGrid
  split <;> rfl

theorem even_onGrid (even : Even r) : Even (onGrid false r e).mantissa := by
  unfold onGrid
  split
  · exact ⟨0x8000000000000, rfl⟩
  · exact even

namespace RoundsTo

theorem canonical_onGrid (h : RoundsTo q e r) (fits : (onGrid false r e).exponent ≤ 971) :
    (onGrid false r e).IsCanonical := by
  have upper := h.le_two_pow
  have lower := h.two_pow_le
  have least := h.le_exponent
  unfold onGrid at fits ⊢
  split at fits
  · rename_i full
    rw [if_pos full]
    exact ⟨by norm_num, least.trans (Int.le_add_one le_rfl), fits, Or.inl (by norm_num)⟩
  · rename_i free
    rw [if_neg free]
    rw [beq_iff_eq] at free
    exact ⟨lt_of_le_of_ne upper free, least, fits, lower⟩

/-- With an exponent of doubles, the double of a multiple is nearest. -/
theorem isNearest_onGrid (h : RoundsTo q e r) (negative : Bool)
    (fits : (onGrid false r e).exponent ≤ 971) :
    (onGrid negative r e).IsNearest (signFactor negative * q) := by
  have nearest := h.isNearest (h.canonical_onGrid fits) (value_onGrid r e) even_onGrid
  cases negative with
  | false =>
    rw [signFactor, if_neg Bool.false_ne_true, one_mul]
    exact nearest
  | true =>
    rw [signFactor, if_pos rfl, neg_one_mul, onGrid_true]
    exact nearest.neg

/-- A multiple with a larger exponent than doubles have is too large. -/
theorem overflow_le (h : RoundsTo q e r) (large : 971 < (onGrid false r e).exponent) :
    overflow ≤ q := by
  have above : 2 ^ 52 * 2 ^ e ≤ q ∨ e = -1074 := h.normal
  have near := neg_le_of_abs_le h.dist_le
  have positive : (0 : ℚ) < 2 ^ (970 : ℤ) := by positivity
  unfold overflow
  unfold onGrid at large
  split at large
  · rename_i full
    have power : (2 : ℚ) ^ (970 + 1 : ℤ) ≤ 2 ^ e :=
      zpow_le_zpow_right₀ one_le_two (Int.le_of_lt_add_one large)
    rw [zpow_add_one₀ two_ne_zero] at power
    rw [beq_iff_eq.mp full] at near
    push_cast at near
    linarith
  · have power : (2 : ℚ) ^ (970 + 1 + 1 : ℤ) ≤ 2 ^ e := zpow_le_zpow_right₀ one_le_two large
    rw [zpow_add_one₀ two_ne_zero, zpow_add_one₀ two_ne_zero] at power
    have normal : 2 ^ 52 * 2 ^ e ≤ q := above.resolve_right fun least => by
      subst least
      exact absurd (show (971 : ℤ) < -1074 from large) (by decide)
    generalize (2 : ℚ) ^ (970 : ℤ) = w at positive power ⊢
    linarith

/-- A multiple with an exponent of doubles is not too large. -/
theorem lt_overflow (h : RoundsTo q e r) (fits : (onGrid false r e).exponent ≤ 971) :
    q < overflow := by
  have near := le_of_abs_le h.dist_le
  have step : (0 : ℚ) < 2 ^ e := by positivity
  have positive : (0 : ℚ) < 2 ^ (970 : ℤ) := by positivity
  unfold overflow
  unfold onGrid at fits
  split at fits
  · have power : (2 : ℚ) ^ e ≤ 2 ^ (970 : ℤ) :=
      zpow_le_zpow_right₀ one_le_two (Int.le_of_add_le_add_right fits)
    have below := h.lt
    generalize (2 : ℚ) ^ (970 : ℤ) = w at positive power ⊢
    linarith
  · rename_i free
    rw [beq_iff_eq] at free
    have power : (2 : ℚ) ^ e ≤ 2 ^ (970 + 1 : ℤ) := zpow_le_zpow_right₀ one_le_two fits
    rw [zpow_add_one₀ two_ne_zero] at power
    have factor : (r : ℚ) ≤ 2 ^ 53 - 1 := by
      rw [le_sub_iff_add_le]
      exact_mod_cast lt_of_le_of_ne h.le_two_pow free
    have scaled : (r : ℚ) * 2 ^ e ≤ (2 ^ 53 - 1) * 2 ^ e :=
      mul_le_mul_of_nonneg_right factor step.le
    refine lt_of_le_of_ne (by linarith) fun equal => ?_
    -- The largest mantissa is odd, so the number halfway does not round down to it.
    have tie : q - r * 2 ^ e = 2 ^ e / 2 := by linarith
    have even := h.even_of_tie (by rw [tie, abs_of_pos (by positivity)])
    have largest : (r : ℚ) + 1 = 2 ^ 53 := mul_right_cancel₀ step.ne' (by linarith)
    have odd : r + 1 = 2 ^ 53 := by exact_mod_cast largest
    rw [Nat.even_iff] at even
    omega

end RoundsTo

/-! ## The algorithm -/

theorem cast_pow_two (k : ℕ) : ((Nat.pow 2 k : ℕ) : ℚ) = 2 ^ k := by
  rw [Nat.pow_eq, Nat.cast_pow, Nat.cast_ofNat]

/-- A ratio is scaled exactly. -/
theorem scaledRatio_spec (num : ℕ) (pos : 0 < den) (e : ℤ) :
    0 < (scaledRatio num den e).2
    ∧ (num / den : ℚ) = (scaledRatio num den e).1 / (scaledRatio num den e).2 * 2 ^ e := by
  have hden : (den : ℚ) ≠ 0 := by exact_mod_cast pos.ne'
  unfold scaledRatio
  split
  · rename_i nonneg
    obtain ⟨k, rfl⟩ := Int.eq_ofNat_of_zero_le nonneg
    refine ⟨Nat.mul_pos pos (Nat.pow_pos two_pos), ?_⟩
    rw [Int.toNat_natCast, Nat.cast_mul, cast_pow_two, zpow_natCast]
    field_simp
  · rename_i negative
    obtain ⟨k, hk⟩ := Int.eq_ofNat_of_zero_le (a := -e) (by omega)
    obtain rfl : e = -k := by omega
    refine ⟨pos, ?_⟩
    rw [hk, Int.toNat_natCast, Nat.cast_mul, cast_pow_two, zpow_neg, zpow_natCast]
    field_simp

/-- The nearest natural, an exact half going to the even one. -/
theorem roundHalfEven_spec (num : ℕ) (pos : 0 < den) :
    |(num / den : ℚ) - roundHalfEven num den| ≤ 1 / 2
    ∧ (|(num / den : ℚ) - roundHalfEven num den| = 1 / 2 → Even (roundHalfEven num den)) := by
  have hden : (0 : ℚ) < den := by exact_mod_cast pos
  have parts : (num / den : ℚ) = (num / den : ℕ) + (num % den : ℕ) / den := by
    have division : (num : ℚ) = den * (num / den : ℕ) + (num % den : ℕ) := by
      exact_mod_cast (Nat.div_add_mod num den).symm
    rw [division]
    field_simp
  have rest : (0 : ℚ) ≤ (num % den : ℕ) / den := by positivity
  have restLt : ((num % den : ℕ) / den : ℚ) < 1 := by
    rw [div_lt_one hden]
    exact_mod_cast Nat.mod_lt num pos
  unfold roundHalfEven
  dsimp only
  split
  · rename_i below
    have small : ((num % den : ℕ) / den : ℚ) < 1 / 2 := by
      rw [div_lt_div_iff₀ hden two_pos]
      exact_mod_cast (by omega : num % den * 2 < 1 * den)
    rw [parts, add_sub_cancel_left, abs_of_nonneg rest]
    exact ⟨small.le, fun tie => absurd tie small.ne⟩
  · split
    · rename_i above
      have large : 1 / 2 < ((num % den : ℕ) / den : ℚ) := by
        rw [div_lt_div_iff₀ two_pos hden]
        exact_mod_cast (by omega : 1 * den < num % den * 2)
      rw [parts, Nat.cast_add_one, add_sub_add_left_eq_sub, abs_of_neg (by linarith)]
      exact ⟨by linarith, fun tie => absurd tie (by linarith : -_ < (1 / 2 : ℚ)).ne⟩
    · have half : ((num % den : ℕ) / den : ℚ) = 1 / 2 := by
        rw [div_eq_div_iff hden.ne' two_ne_zero]
        exact_mod_cast (by omega : num % den * 2 = 1 * den)
      refine ⟨?_, fun _ => ?_⟩
      · rw [parts, Nat.cast_add, add_sub_add_left_eq_sub, half]
        rcases Nat.mod_two_eq_zero_or_one (num / den) with even | odd
        · rw [even]
          norm_num
        · rw [odd]
          norm_num
      · rw [Nat.even_iff]
        omega

theorem two_pow_mul_zpow (k : ℕ) (j : ℤ) : (2 : ℚ) ^ k * 2 ^ j = 2 ^ (k + j) := by
  rw [zpow_add₀ two_ne_zero, zpow_natCast]

theorem zpow_log2_le (hnum : num ≠ 0) : (2 : ℚ) ^ (num.log2 : ℤ) ≤ num := by
  rw [zpow_natCast]
  exact_mod_cast Nat.log2_self_le hnum

theorem lt_zpow_log2 (num : ℕ) : (num : ℚ) < 2 ^ (num.log2 + 1 : ℤ) := by
  rw [← Nat.cast_succ, zpow_natCast]
  exact_mod_cast Nat.lt_log2_self

/-- The exponent that is chosen for a ratio is that of the doubles around it. -/
theorem gridExponent_spec (hnum : num ≠ 0) (pos : 0 < den) :
    -1074 ≤ gridExponent num den
    ∧ (num / den : ℚ) < 2 ^ 53 * 2 ^ gridExponent num den
    ∧ (2 ^ 52 * 2 ^ gridExponent num den ≤ (num / den : ℚ) ∨ gridExponent num den = -1074) := by
  have hden : (0 : ℚ) < den := by exact_mod_cast pos
  obtain ⟨top, htop⟩ : ∃ top : ℤ, top = num.log2 - den.log2 := ⟨_, rfl⟩
  have low : (2 : ℚ) ^ (top - 1) ≤ num / den := by
    rw [le_div_iff₀ hden]
    calc (2 : ℚ) ^ (top - 1) * den
        ≤ 2 ^ (top - 1) * 2 ^ (den.log2 + 1 : ℤ) :=
          mul_le_mul_of_nonneg_left (lt_zpow_log2 den).le (by positivity)
      _ = 2 ^ (num.log2 : ℤ) := by
          rw [← zpow_add₀ two_ne_zero]
          congr 1
          omega
      _ ≤ num := zpow_log2_le hnum
  have high : (num / den : ℚ) < 2 ^ (top + 1) := by
    rw [div_lt_iff₀ hden]
    calc (num : ℚ) < 2 ^ (num.log2 + 1 : ℤ) := lt_zpow_log2 num
      _ = 2 ^ (top + 1) * 2 ^ (den.log2 : ℤ) := by
          rw [← zpow_add₀ two_ne_zero]
          congr 1
          omega
      _ ≤ 2 ^ (top + 1) * den :=
          mul_le_mul_of_nonneg_left (zpow_log2_le pos.ne') (by positivity)
  obtain ⟨posD, scaled⟩ := scaledRatio_spec num pos top
  have hd : (0 : ℚ) < (scaledRatio num den top).2 := by exact_mod_cast posD
  obtain ⟨raw, hraw, atLeast, below⟩ : ∃ raw : ℤ, gridExponent num den = max raw (-1074)
      ∧ (2 : ℚ) ^ (52 + raw) ≤ num / den ∧ (num / den : ℚ) < 2 ^ (53 + raw) := by
    by_cases middle : (scaledRatio num den top).2 ≤ (scaledRatio num den top).1
    · refine ⟨top - 52, ?_, ?_, ?_⟩
      · subst htop
        exact congrArg (max · (-1074)) (if_pos middle)
      · rw [show 52 + (top - 52) = top by omega, scaled]
        refine le_mul_of_one_le_left (by positivity) ((one_le_div hd).mpr ?_)
        exact_mod_cast middle
      · rwa [show 53 + (top - 52) = top + 1 by omega]
    · refine ⟨top - 53, ?_, ?_, ?_⟩
      · subst htop
        exact congrArg (max · (-1074)) (if_neg middle)
      · rwa [show 52 + (top - 53) = top - 1 by omega]
      · rw [show 53 + (top - 53) = top by omega, scaled]
        refine mul_lt_of_lt_one_left (by positivity) ((div_lt_one hd).mpr ?_)
        exact_mod_cast Nat.lt_of_not_le middle
  rw [hraw, two_pow_mul_zpow, two_pow_mul_zpow]
  refine ⟨le_max_right _ _, below.trans_le ?_, ?_⟩
  · exact zpow_le_zpow_right₀ one_le_two (by push_cast; omega)
  · rcases le_total raw (-1074) with tiny | normal
    · exact Or.inr (max_eq_right tiny)
    · left
      rw [max_eq_left normal]
      exact_mod_cast atLeast

/-- The ratio rounds to a multiple of a power of two. -/
theorem roundsTo_gridExponent (hnum : num ≠ 0) (pos : 0 < den) :
    RoundsTo (num / den) (gridExponent num den)
      (roundHalfEven (scaledRatio num den (gridExponent num den)).1
        (scaledRatio num den (gridExponent num den)).2) := by
  obtain ⟨least, lt, normal⟩ := gridExponent_spec hnum pos
  obtain ⟨posD, scaled⟩ := scaledRatio_spec num pos (gridExponent num den)
  obtain ⟨near, tie⟩ := roundHalfEven_spec (scaledRatio num den (gridExponent num den)).1 posD
  have step : (0 : ℚ) < 2 ^ gridExponent num den := by positivity
  have dist (m : ℚ) : |(num / den : ℚ) - m * 2 ^ gridExponent num den|
      = |((scaledRatio num den (gridExponent num den)).1
          / (scaledRatio num den (gridExponent num den)).2 : ℚ) - m|
        * 2 ^ gridExponent num den := by
    rw [scaled, ← sub_mul, abs_mul, abs_of_pos step]
  refine ⟨?_, fun same => tie ?_, least, lt, normal⟩
  · rw [dist]
    calc _ ≤ 1 / 2 * (2 : ℚ) ^ gridExponent num den := mul_le_mul_of_nonneg_right near step.le
      _ = _ := by ring
  · rw [dist] at same
    exact mul_right_cancel₀ step.ne' (by rw [same]; ring)

theorem ofRatio_of_ne_zero (negative : Bool) (hnum : num ≠ 0) (pos : 0 < den) :
    ∃ e r, RoundsTo (num / den) e r
      ∧ ofRatio negative num den
        = if 971 < (onGrid negative r e).exponent then .infinite negative
          else .finite (onGrid negative r e) := by
  refine ⟨_, _, roundsTo_gridExponent hnum pos, ?_⟩
  unfold ofRatio onGrid
  rw [if_neg (by simpa using hnum)]
  dsimp only
  split <;> rfl

/-! ## Ratios, products and integers -/

/-- Zero of either sign is nearest to zero. -/
theorem isNearest_zero (negative : Bool) : (⟨negative, 0, -1074⟩ : Binary64).IsNearest 0 := by
  have value : (⟨negative, 0, -1074⟩ : Binary64).value = 0 := by simp [value]
  refine ⟨⟨by norm_num, le_rfl, by norm_num, Or.inr rfl⟩, fun y _ => ?_, fun _ _ _ _ => Even.zero⟩
  rw [value, sub_zero, abs_zero]
  exact abs_nonneg _

/-- A ratio is rounded to nearest. -/
theorem isRounding_ofRatio (negative : Bool) (num : ℕ) (pos : 0 < den) :
    (ofRatio negative num den).IsRounding (signFactor negative * (num / den)) := by
  have overflows : (0 : ℚ) < overflow := by
    unfold overflow
    positivity
  by_cases hnum : num = 0
  · subst hnum
    rw [Nat.cast_zero, zero_div, mul_zero]
    refine ⟨?_, isNearest_zero negative⟩
    rwa [abs_zero]
  · obtain ⟨e, r, rounds, result⟩ := ofRatio_of_ne_zero negative hnum pos
    have ratio : (0 : ℚ) < num / den := by positivity
    have magnitude : |signFactor negative * (num / den : ℚ)| = num / den := by
      cases negative <;> simp [signFactor, abs_of_pos ratio]
    rw [result, exponent_onGrid]
    split
    · rename_i large
      refine ⟨?_, ?_⟩
      · rw [magnitude]
        exact rounds.overflow_le large
      · cases negative
        · simpa [signFactor] using ratio.le
        · simpa [signFactor] using ratio
    · rename_i fits
      rw [not_lt] at fits
      refine ⟨?_, rounds.isNearest_onGrid negative fits⟩
      rw [magnitude]
      exact rounds.lt_overflow fits

/-- The product is the exact product rounded to nearest. -/
theorem isRounding_mul (x y : Binary64) : (x.mul y).IsRounding (x.value * y.value) := by
  obtain ⟨pos, scaled⟩ :=
    scaledRatio_spec (x.mantissa * y.mantissa) Nat.one_pos (-(x.exponent + y.exponent))
  have exact : x.value * y.value = signFactor (x.negative != y.negative)
      * ((scaledRatio (x.mantissa * y.mantissa) 1 (-(x.exponent + y.exponent))).1
        / (scaledRatio (x.mantissa * y.mantissa) 1 (-(x.exponent + y.exponent))).2) := by
    rw [Nat.cast_one, div_one, zpow_neg, zpow_add₀ two_ne_zero, ← div_eq_mul_inv,
      eq_div_iff (by positivity)] at scaled
    rw [← scaled]
    unfold value signFactor
    push_cast
    cases x.negative <;> cases y.negative <;> simp <;> ring
  rw [exact]
  exact isRounding_ofRatio _ _ pos

/-- The double of an integer is the integer rounded to nearest. -/
theorem isRounding_ofInt (n : ℤ) : (ofInt n).IsRounding n := by
  have exact : (n : ℚ) = signFactor (decide (n < 0)) * (n.natAbs / (1 : ℕ)) := by
    rw [Nat.cast_one, div_one, Nat.cast_natAbs, Int.cast_abs]
    unfold signFactor
    split
    · rename_i negative
      rw [abs_of_neg (by simpa using negative), neg_mul, one_mul, neg_neg]
    · rename_i nonneg
      rw [abs_of_nonneg (by simpa using nonneg), one_mul]
  rw [exact]
  exact isRounding_ofRatio _ _ Nat.one_pos

/-! ## The value is determined -/

theorem exists_roundsTo (hq : 0 < q) : ∃ e r, RoundsTo q e r := by
  have numerator : ((q.num.toNat : ℤ) : ℚ) = q.num := by
    rw [Int.toNat_of_nonneg (Rat.num_nonneg.mpr hq.le)]
  have ratio : (q.num.toNat / q.den : ℚ) = q := by
    rw [← Int.cast_natCast, numerator, Rat.num_div_den]
  have positive : 0 < q.num := Rat.num_pos.mpr hq
  have rounds : RoundsTo (q.num.toNat / q.den) _ _ := roundsTo_gridExponent (by omega) q.den_pos
  rw [ratio] at rounds
  exact ⟨_, _, rounds⟩

theorem IsNearest.value_eq_of_pos (hq : 0 < q) (small : q < overflow) (hx : x.IsNearest q)
    (hy : y.IsNearest q) : y.value = x.value := by
  obtain ⟨e, r, rounds⟩ := exists_roundsTo hq
  have fits : (onGrid false r e).exponent ≤ 971 :=
    le_of_not_gt fun large => absurd (rounds.overflow_le large) small.not_ge
  have canonical := rounds.canonical_onGrid fits
  have value := value_onGrid r e
  rw [rounds.value_eq canonical value hx, rounds.value_eq canonical value hy]

/-- Two doubles nearest to a number have the same value. -/
theorem IsNearest.value_eq (small : |q| < overflow) (hx : x.IsNearest q) (hy : y.IsNearest q) :
    y.value = x.value := by
  rcases lt_trichotomy q 0 with negative | rfl | positive
  · rw [abs_of_neg negative] at small
    have mirrored := value_eq_of_pos (neg_pos.mpr negative) small hx.neg hy.neg
    rwa [value_neg, value_neg, neg_inj] at mirrored
  · have zero {z : Binary64} (hz : z.IsNearest 0) : z.value = 0 := by
      have near := hz.le_dist _ (isNearest_zero false).canonical
      have value : (⟨false, 0, -1074⟩ : Binary64).value = 0 := by simp [value]
      rw [value, sub_zero, abs_zero, zero_sub, abs_neg] at near
      exact abs_eq_zero.mp (le_antisymm near (abs_nonneg _))
    rw [zero hx, zero hy]
  · rw [abs_of_pos positive] at small
    exact value_eq_of_pos positive small hx hy

/-! ## Order -/

/-- A double above a number is not below the double nearest to it. -/
theorem IsNearest.value_le (hx : x.IsNearest q) (hy : y.IsCanonical) (above : q ≤ y.value) :
    x.value ≤ y.value := by
  by_contra between
  rw [not_le] at between
  have near := hx.le_dist y hy
  rw [abs_of_neg (by linarith), abs_of_nonpos (by linarith)] at near
  linarith

/-- A double below a number is not above the double nearest to it. -/
theorem IsNearest.le_value (hx : x.IsNearest q) (hy : y.IsCanonical) (below : y.value ≤ q) :
    y.value ≤ x.value := by
  have mirrored := hx.neg.value_le hy.neg (by rwa [value_neg, neg_le_neg_iff])
  rwa [value_neg, value_neg, neg_le_neg_iff] at mirrored

theorem IsNearest.value_nonneg (hx : x.IsNearest q) (nonneg : 0 ≤ q) : 0 ≤ x.value := by
  have zero : (⟨false, 0, -1074⟩ : Binary64).value = 0 := by simp [value]
  have least := hx.le_value (isNearest_zero false).canonical (by rwa [zero])
  rwa [zero] at least

theorem IsNearest.value_nonpos (hx : x.IsNearest q) (nonpos : q ≤ 0) : x.value ≤ 0 := by
  have mirrored := hx.neg.value_nonneg (neg_nonneg.mpr nonpos)
  rwa [value_neg, neg_nonneg] at mirrored

/-- What is at most minus one is not rounded to zero. -/
theorem IsNearest.value_neg_of_le (hx : x.IsNearest q) (below : q ≤ -1) : x.value < 0 := by
  have one : (⟨true, 2 ^ 52, -52⟩ : Binary64).value = -1 := by
    norm_num [value, signFactor]
  have canonical : (⟨true, 2 ^ 52, -52⟩ : Binary64).IsCanonical :=
    ⟨by norm_num, by norm_num, by norm_num, Or.inl le_rfl⟩
  have least := hx.value_le canonical (by rwa [one])
  rw [one] at least
  linarith

theorem value_neg_iff (x : Binary64) : x.value < 0 ↔ (x.negative && !x.isZero) = true := by
  have magnitude : (0 : ℚ) < x.mantissa * 2 ^ x.exponent ↔ x.mantissa ≠ 0 := by
    rw [mul_pos_iff_of_pos_right (by positivity), Nat.cast_pos, Nat.pos_iff_ne_zero]
  have nonneg : (0 : ℚ) ≤ x.mantissa * 2 ^ x.exponent := by positivity
  unfold value signFactor isZero
  cases x.negative with
  | false => simpa using nonneg
  | true => simpa using magnitude

/-! ## Whole numbers -/

/-- A number rounded to a whole one, a half going away from zero. -/
def roundAway (q : ℚ) : ℤ := if q < 0 then -round (-q) else round q

theorem roundAway_nonneg (h : 0 ≤ q) : 0 ≤ roundAway q := by
  rw [roundAway, if_neg h.not_gt, round_eq]
  exact Int.floor_nonneg.mpr (by positivity)

theorem roundAway_nonpos (h : q ≤ 0) : roundAway q ≤ 0 := by
  rcases h.lt_or_eq with negative | rfl
  · have mirrored := roundAway_nonneg (q := -q) (by linarith)
    rw [roundAway, if_neg (by linarith)] at mirrored
    rw [roundAway, if_pos negative]
    omega
  · rw [roundAway, if_neg (lt_irrefl 0), round_zero]

/-- A double that is not below zero is rounded to the nearest natural, a half going up. -/
theorem roundedMagnitude_eq (nonneg : 0 ≤ x.value) :
    (x.roundedMagnitude : ℤ) = roundAway x.value := by
  have magnitude : x.value = x.mantissa * 2 ^ x.exponent := by
    have positive : (0 : ℚ) ≤ x.mantissa * 2 ^ x.exponent := by positivity
    unfold value signFactor at nonneg ⊢
    split at nonneg
    · rename_i negative
      rw [if_pos negative]
      linarith
    · rename_i unsigned
      rw [if_neg unsigned, one_mul]
  rw [roundAway, if_neg nonneg.not_gt, magnitude, round_eq]
  unfold roundedMagnitude
  split
  · rename_i whole
    obtain ⟨k, hk⟩ := Int.eq_ofNat_of_zero_le whole
    have exact : (x.mantissa : ℚ) * 2 ^ k = ((x.mantissa * Nat.pow 2 k : ℕ) : ℚ) := by
      rw [Nat.cast_mul, cast_pow_two]
    rw [hk, Int.toNat_natCast, zpow_natCast, exact, Int.floor_natCast_add]
    norm_num
  · obtain ⟨k, hk⟩ := Int.eq_ofNat_of_zero_le (a := -x.exponent) (by omega)
    have ratio : (x.mantissa : ℚ) * 2 ^ x.exponent + 1 / 2
        = ((2 * x.mantissa + Nat.pow 2 k : ℕ) : ℤ) / ((2 * Nat.pow 2 k : ℕ) : ℚ) := by
      rw [show x.exponent = -k by omega, zpow_neg, zpow_natCast, Int.cast_natCast, Nat.cast_add,
        Nat.cast_mul, Nat.cast_mul, cast_pow_two]
      field_simp
      push_cast
      ring
    rw [hk, Int.toNat_natCast, ratio, Rat.floor_intCast_div_natCast, Int.natCast_div]

end Binary64

open Binary64 in
/-- A number rounds to one value. -/
theorem Double.IsRounding.value_eq {x y : Binary64} {q : ℚ} (hx : (finite x).IsRounding q)
    (hy : (finite y).IsRounding q) : y.value = x.value :=
  IsNearest.value_eq hx.1 hx.2 hy.2

end EstateFiling
