import EstateFiling.Proofs.Money.Grammar

/-!
# Printed amounts read back

An amount that is not below zero reads back as itself when it is printed with a dollar sign
and commas (`Money.parse?_currency`) and as a plain number (`Money.parse?_text`).  One below
zero has a minus sign in front and is not read (`Money.parse?_of_minus`).

The reader drops the dollar sign and the commas (`Money.cleaned_of_printed`), which leaves the
digits of the dollars, a point and two digits of cents, a written amount (`Money.written`).
-/

namespace EstateFiling.Money

variable {m : Money}

/-! ## Commas -/

theorem filter_grouped {p : Char → Bool} (comma : p ',' = false) (ds : List Char) :
    (grouped ds).filter p = ds.filter p := by
  fun_induction grouped ds with
  | case1 => rfl
  | case2 c => rfl
  | case3 c rest nonempty third ih =>
    rw [List.filter_cons, List.filter_cons_of_neg (by simp [comma]), ih, ← List.filter_cons]
  | case4 c rest nonempty third ih =>
    rw [List.filter_cons, ih, ← List.filter_cons]

theorem mem_grouped {c : Char} {ds : List Char} (h : c ∈ grouped ds) : c = ',' ∨ c ∈ ds := by
  fun_induction grouped ds with
  | case1 => cases h
  | case2 d => exact Or.inr h
  | case3 d rest nonempty third ih =>
    rcases List.mem_cons.mp h with rfl | h
    · exact Or.inr List.mem_cons_self
    · rcases List.mem_cons.mp h with rfl | h
      · exact Or.inl rfl
      · exact (ih h).imp_right (List.mem_cons_of_mem d)
  | case4 d rest nonempty third ih =>
    rcases List.mem_cons.mp h with rfl | h
    · exact Or.inr List.mem_cons_self
    · exact (ih h).imp_right (List.mem_cons_of_mem d)

/-! ## Digits of an amount -/

theorem isDigit_of_mem_dollarDigits {c : Char} (h : c ∈ m.dollarDigits) : c.isDigit = true :=
  Nat.isDigit_of_mem_toDigits (by decide) (by decide) h

theorem isDigit_of_mem_centDigits {c : Char} (h : c ∈ m.centDigits) : c.isDigit = true :=
  Text.isDigit_of_mem_paddedNat h

theorem length_centDigits (m : Money) : m.centDigits.length = 2 :=
  Text.length_paddedNat
    ((Nat.length_toDigits_le_iff (by decide) (by decide)).mpr (Nat.mod_lt _ (by decide)))

/-- The characters after the dollar sign. -/
theorem mem_currencyDigits {c : Char}
    (h : c ∈ grouped m.dollarDigits ++ '.' :: m.centDigits) :
    c = ',' ∨ c = '.' ∨ c.isDigit = true := by
  rcases List.mem_append.mp h with dollars | cents
  · rcases mem_grouped dollars with rfl | digit
    · exact Or.inl rfl
    · exact Or.inr (Or.inr (isDigit_of_mem_dollarDigits digit))
  · rcases List.mem_cons.mp cents with rfl | digit
    · exact Or.inr (Or.inl rfl)
    · exact Or.inr (Or.inr (isDigit_of_mem_centDigits digit))

/-- The digits count the cents. -/
theorem digits_count (m : Money) :
    100 * Nat.ofDigitChars 10 m.dollarDigits 0 + Nat.ofDigitChars 10 m.centDigits 0
      = m.cents.natAbs := by
  rw [← Text.digitsValue_eq_ofDigitChars, ← Text.digitsValue_eq_ofDigitChars, dollarDigits,
    centDigits, Text.digitsValue_toDigits, Text.digitsValue_paddedNat]
  omega

/-- The amount as it is written, without its sign. -/
def written (m : Money) : WrittenAmount where
  whole := m.dollarDigits
  fraction := m.centDigits
  digits := List.forall_mem_append.mpr
    ⟨fun _ => isDigit_of_mem_dollarDigits, fun _ => isDigit_of_mem_centDigits⟩
  short := m.length_centDigits.le
  nonempty := List.append_ne_nil_of_left_ne_nil Nat.toDigits_ne_nil _

theorem cents_written (m : Money) : m.written.cents = m.cents.natAbs := by
  show 100 * Nat.ofDigitChars 10 m.dollarDigits 0
      + Nat.ofDigitChars 10 m.centDigits 0 * 10 ^ (2 - m.centDigits.length) = _
  rw [length_centDigits, Nat.sub_self, pow_zero, Nat.mul_one, digits_count]

/-! ## Reading back -/

/-- What the reader keeps of dollar signs, digits, points and commas. -/
theorem cleaned_of_printed {s : String} {k : Nat} {cs : List Char}
    (hs : s.toList = List.replicate k '$' ++ cs)
    (printed : ∀ c ∈ cs, c = ',' ∨ c = '.' ∨ c.isDigit = true) :
    cleaned s = cs.filter (· != ',') := by
  have solid : ∀ c ∈ cs, Text.isBlank c = false := by
    intro c hc
    rcases printed c hc with rfl | rfl | digit
    · decide
    · decide
    · exact Text.isBlank_eq_false_of_isDigit digit
  have trimmed : Text.trimChars s.toList = s.toList := by
    refine Text.trimChars_eq_self fun c hc => ?_
    rw [hs] at hc
    rcases List.mem_append.mp hc with dollar | hc
    · rw [List.eq_of_mem_replicate dollar]
      decide
    · exact solid c hc
  have amount : cs.dropWhile (· == '$') = cs := by
    refine List.dropWhile_eq_self_iff.mpr fun nonempty dollar => ?_
    rcases printed _ (List.getElem_mem nonempty) with comma | point | digit
    · rw [comma] at dollar
      cases dollar
    · rw [point] at dollar
      cases dollar
    · rw [beq_iff_eq.mp dollar] at digit
      cases digit
  have signs : ∀ c ∈ List.replicate k '$', (c == '$') = true := fun c hc =>
    beq_iff_eq.mpr (List.eq_of_mem_replicate hc)
  unfold cleaned
  rw [trimmed, hs, List.dropWhile_append_of_pos signs, amount]
  refine List.filter_congr fun c hc => ?_
  rw [solid c hc, Bool.not_false, Bool.and_true]

theorem toList_currency (m : Money) :
    m.currency.toList = m.sign ++ '$' :: grouped m.dollarDigits ++ '.' :: m.centDigits :=
  String.toList_ofList

theorem toList_text (m : Money) :
    m.text.toList = m.sign ++ m.dollarDigits ++ '.' :: m.centDigits :=
  String.toList_ofList

theorem sign_of_nonneg (h : 0 ≤ m.cents) : m.sign = [] := if_neg (Int.not_lt.mpr h)

/-- Digits around a point are all kept. -/
theorem filter_written {p : Char → Bool} (point : p '.' = true)
    (digit : ∀ c : Char, c.isDigit = true → p c = true) :
    (m.dollarDigits ++ '.' :: m.centDigits).filter p = m.dollarDigits ++ '.' :: m.centDigits := by
  refine List.filter_eq_self.mpr (List.forall_mem_append.mpr
    ⟨?_, List.forall_mem_cons.mpr ⟨point, ?_⟩⟩)
  · exact fun c hc => digit c (isDigit_of_mem_dollarDigits hc)
  · exact fun c hc => digit c (isDigit_of_mem_centDigits hc)

theorem bne_of_isDigit {c d : Char} (digit : c.isDigit = true) (other : d.isDigit = false) :
    (c != d) = true := by
  rw [bne_iff_ne]
  rintro rfl
  rw [other] at digit
  cases digit

/-- The digits around a point are read as the amount. -/
theorem parse?_of_cleaned {s : String} (kept : cleaned s = m.dollarDigits ++ '.' :: m.centDigits)
    (h : 0 ≤ m.cents) : parse? s = some m := by
  have spelled : m.written.Spells (cleaned s) := Or.inl kept
  rw [parse?_of_spells spelled, cents_written, Int.natAbs_of_nonneg h, ofCents?_cents]

/-- A printed amount that is not below zero reads back as itself. -/
theorem parse?_currency (h : 0 ≤ m.cents) : parse? m.currency = some m := by
  have printed : m.currency.toList
      = List.replicate 1 '$' ++ (grouped m.dollarDigits ++ '.' :: m.centDigits) := by
    rw [toList_currency, sign_of_nonneg h]
    rfl
  refine parse?_of_cleaned ?_ h
  rw [cleaned_of_printed printed fun _ => mem_currencyDigits, List.filter_append,
    filter_grouped (by decide), ← List.filter_append]
  exact filter_written (by decide) fun _ digit => bne_of_isDigit digit (by decide)

/-- So it does as a plain number. -/
theorem parse?_text (h : 0 ≤ m.cents) : parse? m.text = some m := by
  have plain : m.text.toList
      = List.replicate 0 '$' ++ (m.dollarDigits ++ '.' :: m.centDigits) := by
    rw [toList_text, sign_of_nonneg h]
    rfl
  have printed : ∀ c ∈ m.dollarDigits ++ '.' :: m.centDigits,
      c = ',' ∨ c = '.' ∨ c.isDigit = true := by
    refine List.forall_mem_append.mpr ⟨fun c hc => ?_,
      List.forall_mem_cons.mpr ⟨Or.inr (Or.inl rfl), fun c hc => ?_⟩⟩
    · exact Or.inr (Or.inr (isDigit_of_mem_dollarDigits hc))
    · exact Or.inr (Or.inr (isDigit_of_mem_centDigits hc))
  refine parse?_of_cleaned ?_ h
  rw [cleaned_of_printed plain printed]
  exact filter_written (by decide) fun _ digit => bne_of_isDigit digit (by decide)

/-- A text with a minus sign in front is no amount. -/
theorem parse?_of_minus {s : String} {cs : List Char} (hs : s.toList = '-' :: cs) :
    parse? s = none := by
  have kept : ∃ rest, cleaned s = '-' :: rest := by
    unfold cleaned
    rw [hs, Text.trimChars_cons (by decide), List.dropWhile_cons_of_neg (by decide),
      List.filter_cons_of_pos (by decide)]
    exact ⟨_, rfl⟩
  obtain ⟨rest, kept⟩ := kept
  refine Option.eq_none_iff_forall_ne_some.mpr fun m read => ?_
  obtain ⟨a, spelled⟩ := exists_spells_of_parse? read
  rw [kept] at spelled
  have minus : '-' ∈ a.whole := by
    rcases spelled with spelled | ⟨spelled, -⟩
    · rcases List.cons_eq_append_iff.mp spelled with ⟨-, first⟩ | ⟨others, whole, -⟩
      · cases first
      · exact whole ▸ List.mem_cons_self
    · exact spelled ▸ List.mem_cons_self
  cases a.digits _ (List.mem_append_left _ minus)

/-- An empty cell holds no amount. -/
theorem parse?_empty : parse? "" = none := by
  decide

end EstateFiling.Money
