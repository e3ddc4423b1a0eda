import EstateFiling.Number.Shortest
import EstateFiling.Proofs.Money.Currency
import EstateFiling.Proofs.Number.Rounding

/-!
# Amounts given as numbers

An amount can be given as a whole number of dollars, as a double that counts dollars, or as
a text.

*Doubles.*  A double comes to as many cents as its product with one hundred has when it is
rounded to a double and then to a whole number (`Money.ComesTo`).  It is read as exactly these
cents, or as nothing if they are out of range, with one exception: `2 ^ 63` cents are one
more than the largest amount and count as that (`Money.readsExactly_iff`).

*Integers.*  An integer and the text of its digits are the same amount, if there is one
(`Json.moneyAmount?_integer`).
-/

namespace EstateFiling

/-! ## Doubles -/

namespace Money

variable {dollars product : Binary64} {cents : Int} {m : Money}

/-- The cents that a double of dollars comes to: the exact product with one hundred, rounded to
nearest as doubles are, then to a whole number, a half going away from zero. -/
def ComesTo (dollars : Binary64) (cents : Int) : Prop :=
  ∃ product, (Double.finite product).IsRounding (dollars.value * 100)
    ∧ Binary64.roundAway product.value = cents

/-- A double is read as the cents it comes to, and not at all if they are out of range. -/
def ReadsExactly (dollars : Binary64) : Prop :=
  (∀ m, ofDouble? (.finite dollars) = some m → ComesTo dollars m.cents)
  ∧ ∀ cents, ComesTo dollars cents →
      ¬(-0x8000000000000000 ≤ cents ∧ cents < 0x8000000000000000) →
      ofDouble? (.finite dollars) = none

/-- The product with one hundred, rounded. -/
theorem isRounding_product (dollars : Binary64) :
    (dollars.mul ⟨false, 100, 0⟩).IsRounding (dollars.value * 100) := by
  have hundred : (⟨false, 100, 0⟩ : Binary64).value = 100 := by
    norm_num [Binary64.value, Binary64.signFactor]
  rw [← hundred]
  exact Binary64.isRounding_mul dollars _

/-- A double comes to the cents of the product, if that is finite. -/
theorem comesTo_iff : ComesTo dollars cents ↔
    ∃ product, dollars.mul ⟨false, 100, 0⟩ = .finite product
      ∧ Binary64.roundAway product.value = cents := by
  have exact := isRounding_product dollars
  constructor
  · rintro ⟨other, rounded, rfl⟩
    cases same : dollars.mul ⟨false, 100, 0⟩ with
    | finite product =>
      rw [same] at exact
      exact ⟨product, rfl, by rw [rounded.value_eq exact]⟩
    | infinite negative =>
      rw [same] at exact
      exact absurd exact.1 rounded.1.not_ge
    | nan =>
      rw [same] at exact
      exact exact.elim
  · rintro ⟨product, same, rfl⟩
    rw [same] at exact
    exact ⟨product, exact, rfl⟩

theorem ComesTo.unique {cents' : Int} (h : ComesTo dollars cents) (h' : ComesTo dollars cents') :
    cents = cents' := by
  obtain ⟨product, same, rfl⟩ := comesTo_iff.mp h
  obtain ⟨other, same', rfl⟩ := comesTo_iff.mp h'
  rw [same] at same'
  cases same'
  rfl

/-- The cents have the sign of the dollars. -/
theorem ComesTo.cents_nonpos (h : ComesTo dollars cents) (negative : dollars.value < 0) :
    cents ≤ 0 := by
  obtain ⟨product, rounded, rfl⟩ := h
  exact Binary64.roundAway_nonpos (rounded.2.value_nonpos (by linarith))

theorem ComesTo.cents_nonneg (h : ComesTo dollars cents) (nonneg : 0 ≤ dollars.value) :
    0 ≤ cents := by
  obtain ⟨product, rounded, rfl⟩ := h
  exact Binary64.roundAway_nonneg (rounded.2.value_nonneg (by linarith))

/-- Cents in range are left as they are. -/
theorem cents_clamp (lower : 0 ≤ cents) (upper : cents < 0x8000000000000000) :
    (clamp cents).cents = cents := by
  show max (-0x8000000000000000) (min cents 0x7fffffffffffffff) = cents
  omega

theorem ofDouble?_of_neg (negative : dollars.value < 0) : ofDouble? (.finite dollars) = none :=
  if_pos ((Binary64.value_neg_iff dollars).mp negative)

/-- Up to `2 ^ 63` cents a double is read as the nearest amount. -/
theorem ofDouble?_of_comesTo (h : ComesTo dollars cents) (nonneg : 0 ≤ dollars.value) :
    ofDouble? (.finite dollars)
      = if cents ≤ 0x8000000000000000 then some (clamp cents) else none := by
  obtain ⟨product, same, rfl⟩ := comesTo_iff.mp h
  have exact := isRounding_product dollars
  rw [same] at exact
  have positive : ¬ (dollars.negative && !dollars.isZero) = true := fun negative =>
    absurd ((Binary64.value_neg_iff dollars).mpr negative) nonneg.not_gt
  have rounded := Binary64.roundedMagnitude_eq (exact.2.value_nonneg (by linarith))
  unfold ofDouble?
  dsimp only
  rw [if_neg positive, same, ← rounded]
  exact if_congr (by omega) rfl rfl

/-- A double that comes to no cents is not read. -/
theorem ofDouble?_eq_none (h : ∀ cents, ¬ ComesTo dollars cents) :
    ofDouble? (.finite dollars) = none := by
  unfold ofDouble?
  dsimp only
  split
  · rfl
  · split
    · rename_i product same
      exact absurd (comesTo_iff.mpr ⟨product, same, rfl⟩) (h _)
    · rfl

/-- What is read comes to at most `2 ^ 63` cents. -/
theorem exists_comesTo (read : ofDouble? (.finite dollars) = some m) :
    0 ≤ dollars.value ∧
      ∃ cents, ComesTo dollars cents ∧ cents ≤ 0x8000000000000000 ∧ clamp cents = m := by
  have nonneg : 0 ≤ dollars.value := by
    by_contra negative
    rw [ofDouble?_of_neg (not_le.mp negative)] at read
    cases read
  obtain ⟨cents, comes⟩ : ∃ cents, ComesTo dollars cents := by
    by_contra never
    rw [ofDouble?_eq_none (not_exists.mp never)] at read
    cases read
  rw [ofDouble?_of_comesTo comes nonneg, Option.ite_none_right_eq_some] at read
  exact ⟨nonneg, cents, comes, read.1, Option.some.inj read.2⟩

/-- At `2 ^ 63` cents the amount read is another one. -/
theorem ReadsExactly.not_comesTo (reads : ReadsExactly dollars) :
    ¬ ComesTo dollars 0x8000000000000000 := by
  intro edge
  have nonneg : 0 ≤ dollars.value := by
    by_contra negative
    exact absurd (edge.cents_nonpos (not_le.mp negative)) (by decide)
  have amount := reads.1 _ (ofDouble?_of_comesTo edge nonneg)
  exact absurd (edge.unique amount) (by decide)

/-- Everywhere else the amount is exact. -/
theorem readsExactly_of_not_comesTo (inside : ¬ ComesTo dollars 0x8000000000000000) :
    ReadsExactly dollars := by
  have inner {cents : Int} (comes : ComesTo dollars cents) : cents ≠ 0x8000000000000000 := by
    rintro rfl
    exact inside comes
  refine ⟨fun m read => ?exact, fun cents comes out => ?none⟩
  case exact =>
    obtain ⟨nonneg, cents, comes, upper, rfl⟩ := exists_comesTo read
    rwa [cents_clamp (comes.cents_nonneg nonneg) (lt_of_le_of_ne upper (inner comes))]
  case none =>
    rcases lt_or_ge dollars.value 0 with negative | nonneg
    · exact ofDouble?_of_neg negative
    · have lower := comes.cents_nonneg nonneg
      have other := inner comes
      rw [ofDouble?_of_comesTo comes nonneg, if_neg (by omega)]

/-- A double is read as exactly the cents it comes to, unless these are `2 ^ 63`.  Nothing is
read below zero, nor above `2 ^ 63` cents, and `2 ^ 63` cents are cut off at the largest amount. -/
theorem readsExactly_iff (dollars : Binary64) :
    (ReadsExactly dollars ↔ ¬ ComesTo dollars 0x8000000000000000)
    ∧ (dollars.value < 0 → ofDouble? (.finite dollars) = none)
    ∧ (∀ cents, ComesTo dollars cents → 0 ≤ dollars.value → ofDouble? (.finite dollars)
        = if cents ≤ 0x8000000000000000 then some (clamp cents) else none)
    ∧ ((∀ cents, ¬ ComesTo dollars cents) → ofDouble? (.finite dollars) = none) :=
  ⟨⟨ReadsExactly.not_comesTo, readsExactly_of_not_comesTo⟩, ofDouble?_of_neg,
    fun _ => ofDouble?_of_comesTo, ofDouble?_eq_none⟩

/-- The double just above the largest amount, `92233720368547760` dollars. -/
def aboveMaximum : Binary64 := ⟨false, 0x147ae147ae147b, 4⟩

theorem aboveMaximum_not_readsExactly :
    ComesTo aboveMaximum 0x8000000000000000
    ∧ ofDouble? (.finite aboveMaximum) = some maximum
    ∧ ¬ ReadsExactly aboveMaximum := by
  have product : aboveMaximum.mul ⟨false, 100, 0⟩ = .finite ⟨false, 0x10000000000000, 11⟩ := by
    decide +kernel
  have edge : ComesTo aboveMaximum 0x8000000000000000 := by
    refine comesTo_iff.mpr ⟨_, product, ?_⟩
    rw [← Binary64.roundedMagnitude_eq (by norm_num [Binary64.value, Binary64.signFactor])]
    decide
  have read : ofDouble? (.finite aboveMaximum) = some maximum := by
    decide +kernel
  exact ⟨edge, read, fun reads => reads.not_comesTo edge⟩

end Money

/-! ## Integers -/

open Money

/-- A whole number of dollars is read from its digits. -/
theorem Money.parse?_toDigits (n : Nat) :
    parse? (String.ofList (Nat.toDigits 10 n)) = ofDollars? n := by
  have digits : ∀ c ∈ Nat.toDigits 10 n, c.isDigit = true :=
    fun _ => Nat.isDigit_of_mem_toDigits (by decide) (by decide)
  have chars : (String.ofList (Nat.toDigits 10 n)).toList
      = List.replicate 0 '$' ++ Nat.toDigits 10 n := String.toList_ofList
  have kept : cleaned (String.ofList (Nat.toDigits 10 n)) = Nat.toDigits 10 n := by
    rw [cleaned_of_printed chars fun c hc => Or.inr (Or.inr (digits c hc))]
    exact List.filter_eq_self.mpr fun c hc => bne_of_isDigit (digits c hc) (by decide)
  obtain ⟨a, whole, noFraction⟩ :
      ∃ a : WrittenAmount, a.whole = Nat.toDigits 10 n ∧ a.fraction = [] :=
    ⟨⟨Nat.toDigits 10 n, [], by rwa [List.append_nil], by decide, by
      rw [List.append_nil]
      exact Nat.toDigits_ne_nil⟩, rfl, rfl⟩
  have spelled : a.Spells (cleaned (String.ofList (Nat.toDigits 10 n))) :=
    Or.inr ⟨kept.trans whole.symm, noFraction⟩
  rw [parse?_of_spells spelled, WrittenAmount.cents, whole, noFraction,
    Nat.ofDigitChars_ten_toDigits, Nat.ofDigitChars_nil, Nat.zero_mul, Nat.add_zero,
    Int.natCast_mul]
  rfl

theorem Money.ofDouble?_ofInt_neg {n : Int} (h : n < 0) : ofDouble? (Binary64.ofInt n) = none := by
  have exact := Binary64.isRounding_ofInt n
  cases rounded : Binary64.ofInt n with
  | finite x =>
    rw [rounded] at exact
    have below : (n : ℚ) ≤ -1 := by exact_mod_cast Int.le_sub_one_of_lt h
    exact ofDouble?_of_neg (exact.2.value_neg_of_le below)
  | infinite _ => rfl
  | nan => rfl

theorem Money.map_cents_ofDollars? (n : Nat) : (ofDollars? n).map cents
    = if 100 * (n : Int) ≤ maximum.cents then some (100 * (n : Int)) else none := by
  have top : maximum.cents = 0x7fffffffffffffff := rfl
  unfold ofDollars? ofCents?
  split
  · rw [if_pos (by omega)]
    rfl
  · rw [if_neg (by omega)]
    rfl

/-- An integer and the text of its digits are the same amount: a hundred times as many cents, if
that is not below zero and in range. -/
theorem Json.moneyAmount?_integer (n : Int) :
    (Json.number (.integer n)).moneyAmount? = (Json.string (Number.integer n).text).moneyAmount?
    ∧ (Json.number (.integer n)).moneyAmount?.map Money.cents
      = if 0 ≤ n ∧ 100 * n ≤ maximum.cents then some (100 * n) else none := by
  rcases lt_or_ge n 0 with negative | nonneg
  · have number : (Json.number (.integer n)).moneyAmount? = none := by
      rw [← ofDouble?_ofInt_neg negative, moneyAmount?, Number.natural?, if_neg negative.not_ge]
      rfl
    have text : (Json.string (Number.integer n).text).moneyAmount? = none := by
      have minus : (Number.integer n).text.toList = '-' :: Nat.toDigits 10 n.natAbs := by
        rw [Number.text, intText, if_pos negative, String.toList_ofList]
      rw [moneyAmount?]
      exact parse?_of_minus minus
    rw [number, text, if_neg fun inside => absurd inside.1 negative.not_ge]
    exact ⟨rfl, rfl⟩
  · obtain ⟨k, rfl⟩ := Int.eq_ofNat_of_zero_le nonneg
    have number : (Json.number (.integer k)).moneyAmount? = ofDollars? k := rfl
    have text : (Json.string (Number.integer k).text).moneyAmount? = ofDollars? k := by
      rw [moneyAmount?, Number.text, intText, if_neg nonneg.not_gt, Int.natAbs_natCast]
      exact parse?_toDigits k
    rw [number, text, map_cents_ofDollars?]
    exact ⟨rfl, if_congr (and_iff_right nonneg).symm rfl rfl⟩

end EstateFiling
