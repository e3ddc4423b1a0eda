import EstateFiling.Proofs.Money.Currency

/-!
# How amounts are printed

The digits of the dollars are printed in groups: one to three digits, then three digits each,
with commas between the groups (`DigitGroups.exists_grouped`).  Without the dollar sign and the
commas the printed amount is the plain number, and either of the two tells amounts apart and
reads back, unless the amount is below zero (`Money.prints_and_reads_back`).
-/

namespace EstateFiling

/-- Digits in groups, as they stand between commas. -/
structure DigitGroups where
  /-- The first group. -/
  first : List Char
  /-- The groups after it. -/
  others : List (List Char)
  /-- The first group has one to three digits. -/
  first_length : 1 ≤ first.length ∧ first.length ≤ 3
  /-- Every other group has three. -/
  others_length : ∀ g ∈ others, g.length = 3

namespace DigitGroups

/-- The groups with commas between them. -/
def chars (g : DigitGroups) : List Char := g.first ++ g.others.flatMap (fun ds => ',' :: ds)

/-- The digits of all groups. -/
def digits (g : DigitGroups) : List Char := g.first ++ g.others.flatten

theorem length_digits (g : DigitGroups) :
    g.digits.length = g.first.length + 3 * g.others.length := by
  have each : g.others.map List.length = List.replicate g.others.length 3 :=
    List.map_eq_replicate_iff.mpr g.others_length
  rw [digits, List.length_append, List.length_flatten, each, List.sum_replicate_nat, Nat.mul_comm]

/-- Commas are put between groups of three digits, counted from the right. -/
theorem exists_grouped {ds : List Char} (nonempty : ds ≠ []) :
    ∃ g : DigitGroups, Money.grouped ds = g.chars ∧ ds = g.digits := by
  fun_induction Money.grouped ds with
  | case1 => exact absurd rfl nonempty
  | case2 c => exact ⟨⟨[c], [], by simp, by simp⟩, rfl, rfl⟩
  | case3 c rest more third ih =>
    obtain ⟨g, printed, rfl⟩ := ih (fun empty => more empty)
    -- The groups after this digit are full, so it stands alone.
    have length := g.length_digits
    have bounds := g.first_length
    have full : g.first.length = 3 := by
      rw [beq_iff_eq] at third
      omega
    refine ⟨⟨[c], g.first :: g.others, by simp, List.forall_mem_cons.mpr ⟨full, g.others_length⟩⟩,
      ?_, ?_⟩
    · rw [printed]
      rfl
    · rfl
  | case4 c rest more third ih =>
    obtain ⟨g, printed, rfl⟩ := ih (fun empty => more empty)
    have length := g.length_digits
    have bounds := g.first_length
    have room : g.first.length < 3 := by
      rw [beq_iff_eq] at third
      omega
    refine ⟨⟨c :: g.first, g.others, by rw [List.length_cons]; omega, g.others_length⟩, ?_, rfl⟩
    rw [printed]
    rfl

end DigitGroups

/-- The parts of a printed amount. -/
structure PrintedAmount where
  /-- Whether there is a minus sign. -/
  negative : Bool
  /-- The dollars. -/
  dollars : DigitGroups
  /-- The cents. -/
  hundredths : List Char
  /-- All digits are those of ASCII. -/
  digits : ∀ c ∈ dollars.digits ++ hundredths, c.isDigit = true
  /-- There is no zero in front, unless there are no dollars. -/
  head_dollars : dollars.digits.head? = some '0' → dollars.digits = ['0']
  /-- The cents have two digits. -/
  length_hundredths : hundredths.length = 2

namespace PrintedAmount

/-- The text of the parts. -/
def chars (p : PrintedAmount) : List Char :=
  (if p.negative then ['-'] else []) ++ '$' :: p.dollars.chars ++ '.' :: p.hundredths

/-- The cents that the digits count. -/
def cents (p : PrintedAmount) : Nat :=
  100 * Nat.ofDigitChars 10 p.dollars.digits 0 + Nat.ofDigitChars 10 p.hundredths 0

end PrintedAmount

namespace Money

variable {m n : Money}

/-! ## The printed form -/

/-- An amount is printed with a dollar sign and groups of digits. -/
theorem exists_printed (m : Money) :
    ∃ p : PrintedAmount, (p.negative = true ↔ m.cents < 0) ∧ p.cents = m.cents.natAbs
      ∧ m.currency.toList = p.chars := by
  obtain ⟨g, printed, digits⟩ :=
    DigitGroups.exists_grouped (show m.dollarDigits ≠ [] from Nat.toDigits_ne_nil)
  have counted : 100 * Nat.ofDigitChars 10 g.digits 0 + Nat.ofDigitChars 10 m.centDigits 0
      = m.cents.natAbs := digits ▸ m.digits_count
  have ascii : ∀ c ∈ g.digits ++ m.centDigits, c.isDigit = true := digits ▸ m.written.digits
  have head : g.digits.head? = some '0' → g.digits = ['0'] := by
    rw [← digits]
    intro zero
    by_cases noDollars : m.cents.natAbs / 100 = 0
    · rw [dollarDigits, noDollars]
      rfl
    · exact absurd zero (Text.head?_toDigits (Nat.pos_of_ne_zero noDollars))
  refine ⟨⟨decide (m.cents < 0), g, m.centDigits, ascii, head, m.length_centDigits⟩,
    decide_eq_true_iff, counted, ?_⟩
  rw [toList_currency, printed, PrintedAmount.chars, sign]
  simp only [decide_eq_true_eq]

/-- Without the dollar sign and the commas it is the plain number. -/
theorem filter_currency (m : Money) :
    m.currency.toList.filter (fun c => c != '$' && c != ',') = m.text.toList := by
  have sign : m.sign.filter (fun c => c != '$' && c != ',') = m.sign := by
    unfold sign
    split <;> rfl
  rw [toList_currency, toList_text, List.append_assoc, List.append_assoc, List.filter_append, sign,
    List.cons_append, List.filter_cons_of_neg (by decide), List.filter_append,
    filter_grouped (by decide), ← List.filter_append]
  rw [filter_written (by decide) fun c digit => ?_]
  rw [bne_of_isDigit digit (by decide), bne_of_isDigit digit (by decide)]
  rfl

/-! ## Reading -/

theorem sign_of_neg (h : m.cents < 0) : m.sign = ['-'] := if_pos h

theorem parse?_text_eq (m : Money) : parse? m.text = if 0 ≤ m.cents then some m else none := by
  split
  · rename_i nonneg
    exact parse?_text nonneg
  · rename_i negative
    have minus : m.text.toList = '-' :: (m.dollarDigits ++ '.' :: m.centDigits) := by
      rw [toList_text, sign_of_neg (Int.not_le.mp negative)]
      rfl
    exact parse?_of_minus minus

theorem parse?_currency_eq (m : Money) :
    parse? m.currency = if 0 ≤ m.cents then some m else none := by
  split
  · rename_i nonneg
    exact parse?_currency nonneg
  · rename_i negative
    have minus : m.currency.toList
        = '-' :: '$' :: (grouped m.dollarDigits ++ '.' :: m.centDigits) := by
      rw [toList_currency, sign_of_neg (Int.not_le.mp negative)]
      rfl
    exact parse?_of_minus minus

/-! ## Amounts are told apart -/

/-- The point is found between the digits. -/
theorem digits_inj
    (same : m.dollarDigits ++ '.' :: m.centDigits = n.dollarDigits ++ '.' :: n.centDigits) :
    m.cents.natAbs = n.cents.natAbs := by
  have pointless {ds : List Char} (digits : ∀ c ∈ ds, c.isDigit = true) : '.' ∉ ds := by
    intro point
    cases digits _ point
  obtain ⟨dollars, -, cents⟩ := (List.append_cons_inj_of_notMem
    (pointless fun _ => isDigit_of_mem_dollarDigits)
    (pointless fun _ => isDigit_of_mem_centDigits)).mp same
  rw [← digits_count, ← digits_count, dollars, cents]

/-- Different amounts have different texts. -/
theorem text_injective : Function.Injective text := by
  intro m n same
  have read : parse? m.text = parse? n.text := congrArg parse? same
  rw [parse?_text_eq, parse?_text_eq] at read
  by_cases hm : 0 ≤ m.cents
  · by_cases hn : 0 ≤ n.cents
    · rw [if_pos hm, if_pos hn] at read
      exact Option.some.inj read
    · rw [if_pos hm, if_neg hn] at read
      cases read
  · by_cases hn : 0 ≤ n.cents
    · rw [if_neg hm, if_pos hn] at read
      cases read
    · -- Neither is read; the digits behind the minus sign tell them apart.
      rw [Int.not_le] at hm hn
      have chars := congrArg String.toList same
      rw [toList_text, toList_text, sign_of_neg hm, sign_of_neg hn, List.append_assoc,
        List.append_assoc] at chars
      have magnitude := digits_inj (List.append_cancel_left chars)
      exact Money.ext (by omega)

theorem currency_injective : Function.Injective currency := by
  intro m n same
  refine text_injective (String.toList_inj.mp ?_)
  rw [← filter_currency, ← filter_currency, same]

/-- An amount is printed as a minus sign if it is below zero, a dollar sign, groups of digits, a
point and two digits.  Without the dollar sign and the commas that is the plain number.  Both
texts read back if the amount is not below zero, and are no amounts otherwise; and both tell
all amounts apart. -/
theorem prints_and_reads_back :
    (∀ m : Money,
      (∃ p : PrintedAmount, (p.negative = true ↔ m.cents < 0) ∧ p.cents = m.cents.natAbs
        ∧ m.currency.toList = p.chars)
      ∧ m.currency.toList.filter (fun c => c != '$' && c != ',') = m.text.toList
      ∧ parse? m.text = (if 0 ≤ m.cents then some m else none)
      ∧ parse? m.currency = (if 0 ≤ m.cents then some m else none))
    ∧ Function.Injective text
    ∧ Function.Injective currency :=
  ⟨fun m => ⟨m.exists_printed, m.filter_currency, m.parse?_text_eq, m.parse?_currency_eq⟩,
    text_injective, currency_injective⟩

/-- The least amount is printed, though nothing reads it. -/
example : (⟨-0x8000000000000000, by decide, by decide⟩ : Money).currency
    = "-$92,233,720,368,547,758.08" := by
  decide

end Money

end EstateFiling
