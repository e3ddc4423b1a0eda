import EstateFiling.Calendar.Reading
import EstateFiling.Proofs.Text.Digits
import Mathlib.Algebra.Group.Nat.Defs

/-!
# Dates come back from their text

The text of a date reads as the date (`Date.parse?_text`), whatever its year: one of at most
four digits without a sign, one before the year zero after a minus sign, and one of five or
six digits after a plus sign.  Where something goes on after it, which is not a digit, the
date is taken if that may stand after the last number (`Date.takeCivil_text`).
-/

namespace EstateFiling.Date

variable {rest : List Char}

/-! ## Pieces -/

/-- Digits that something else follows are taken off the front. -/
theorem takeDigits_append {least most : Nat} {ds : List Char}
    (digits : ∀ d ∈ ds, d.isDigit = true) (enough : least ≤ ds.length) (room : ds.length ≤ most)
    (stops : ∀ c ∈ rest.head?, c.isDigit = false) :
    takeDigits least most (ds ++ rest) = some (Text.digitsValue ds, rest) := by
  have ends : (rest.take (most - ds.length)).takeWhile Char.isDigit = [] := by
    cases rest with
    | nil => rw [List.take_nil]; rfl
    | cons c rest =>
      cases most - ds.length with
      | zero => rfl
      | succ n =>
        rw [List.take_succ_cons, List.takeWhile_cons_of_neg]
        simp [stops c rfl]
  have taken : ((ds ++ rest).take most).takeWhile Char.isDigit = ds := by
    rw [List.take_append, List.take_of_length_le room, List.takeWhile_append_of_pos digits, ends,
      List.append_nil]
  rw [takeDigits, taken, if_neg (Nat.not_lt.mpr enough), List.drop_left]

theorem takeChar_cons (c : Char) (rest : List Char) : takeChar c (c :: rest) = some rest := by
  rw [takeChar, if_pos (beq_self_eq_true c)]

theorem skipBlanks_cons {c : Char} (h : Text.isBlank c = false) (rest : List Char) :
    skipBlanks (c :: rest) = c :: rest :=
  List.dropWhile_cons_of_neg (by simp [h])

/-! ## Padded numbers -/

theorem exists_cons_paddedNat (width n : Nat) :
    ∃ d ds, Text.paddedNat width n = d :: ds ∧ d.isDigit = true := by
  have nonempty : Text.paddedNat width n ≠ [] := by
    intro empty
    exact Nat.toDigits_ne_nil (List.append_eq_nil_iff.mp empty).2
  obtain ⟨d, ds, padded⟩ := List.exists_cons_of_ne_nil nonempty
  exact ⟨d, ds, padded, Text.isDigit_of_mem_paddedNat (padded ▸ List.mem_cons_self)⟩

theorem length_paddedNat_of_lt {width n : Nat} (pos : 0 < width) (h : n < 10 ^ width) :
    (Text.paddedNat width n).length = width :=
  Text.length_paddedNat ((Nat.length_toDigits_le_iff (by decide) pos).mpr h)

/-- A padded number that is taken off the front reads back. -/
theorem takeDigits_paddedNat {least most width n : Nat}
    (enough : least ≤ (Text.paddedNat width n).length)
    (room : (Text.paddedNat width n).length ≤ most)
    (stops : ∀ c ∈ rest.head?, c.isDigit = false) :
    takeDigits least most (Text.paddedNat width n ++ rest) = some (n, rest) := by
  rw [takeDigits_append (fun _ => Text.isDigit_of_mem_paddedNat) enough room stops,
    Text.digitsValue_paddedNat]

/-- A month or a day is taken off the front. -/
theorem takeTwo_paddedNat {n : Nat} (h : n < 100) (stops : ∀ c ∈ rest.head?, c.isDigit = false) :
    takeTwo (Text.paddedNat 2 n ++ rest) = some (n, rest) := by
  have length : (Text.paddedNat 2 n).length = 2 := length_paddedNat_of_lt (by decide) h
  obtain ⟨d, ds, padded, digit⟩ := exists_cons_paddedNat 2 n
  rw [takeTwo, padded, List.cons_append, skipBlanks_cons (Text.isBlank_eq_false_of_isDigit digit),
    ← List.cons_append, ← padded]
  exact takeDigits_paddedNat (by omega) (by omega) stops

/-- A year is taken off the front. -/
theorem takeYear_yearText (year : Int) (rest : List Char) :
    takeYear (yearText year ++ '-' :: rest) = some (year, '-' :: rest) := by
  have stops : ∀ c ∈ ('-' :: rest).head?, c.isDigit = false := by
    rintro _ ⟨⟩
    rfl
  have length : 1 ≤ (Text.paddedNat 4 year.natAbs).length := by
    obtain ⟨d, ds, padded, -⟩ := exists_cons_paddedNat 4 year.natAbs
    rw [padded]
    exact Nat.succ_pos _
  have signed : takeDigits 1 (Text.paddedNat 4 year.natAbs ++ '-' :: rest).length
      (Text.paddedNat 4 year.natAbs ++ '-' :: rest) = some (year.natAbs, '-' :: rest) :=
    takeDigits_paddedNat length (by rw [List.length_append]; omega) stops
  unfold yearText takeYear
  dsimp only
  by_cases negative : year < 0
  · have value : -(year.natAbs : Int) = year := by omega
    rw [if_pos negative, List.cons_append, skipBlanks_cons (by decide)]
    simp only [signed, Option.map_some, value]
  · by_cases large : 9999 < year
    · have value : (year.natAbs : Int) = year := by omega
      rw [if_neg negative, if_pos large, List.cons_append, skipBlanks_cons (by decide)]
      simp only [signed, Option.map_some, value]
    · have four : (Text.paddedNat 4 year.natAbs).length = 4 :=
        length_paddedNat_of_lt (by decide) (by omega)
      have plain : takeDigits 1 4 (Text.paddedNat 4 year.natAbs ++ '-' :: rest) =
          some (year.natAbs, '-' :: rest) := takeDigits_paddedNat length (by omega) stops
      obtain ⟨d, ds, padded, digit⟩ := exists_cons_paddedNat 4 year.natAbs
      rw [if_neg negative, if_neg large]
      rw [padded, List.cons_append] at plain ⊢
      rw [skipBlanks_cons (Text.isBlank_eq_false_of_isDigit digit)]
      split
      · rename_i minus
        injection minus with same
        rw [same] at digit
        cases digit
      · rename_i plus
        injection plus with same
        rw [same] at digit
        cases digit
      · have value : (year.natAbs : Int) = year := by omega
        rw [plain, Option.map_some, value]

/-! ## Dates -/

theorem daysInMonth_le (year : Int) (month : Nat) : daysInMonth year month ≤ 31 := by
  have lengths : ∀ leap, ∀ n ∈ 0 :: monthLengths leap, n ≤ 31 := by decide
  unfold daysInMonth
  cases found : (0 :: monthLengths (isLeapYear year))[month]? with
  | none => exact Nat.zero_le _
  | some n => exact lengths _ n (List.mem_of_getElem? found)

theorem daysInMonth_of_le (year : Int) {month : Nat} (h : 13 ≤ month) :
    daysInMonth year month = 0 := by
  have length : ∀ leap, (0 :: monthLengths leap).length = 13 := by decide
  unfold daysInMonth
  rw [List.getElem?_eq_none (by rw [length]; exact h)]
  rfl

/-- The month and the day of a date have at most two digits. -/
theorem month_day_lt (d : Date) : d.month < 100 ∧ d.day < 100 := by
  obtain ⟨first, last⟩ := d.dayInMonth
  constructor
  · rcases Nat.lt_or_ge d.month 13 with small | large
    · omega
    · rw [daysInMonth_of_le d.year large] at last
      omega
  · have := daysInMonth_le d.year d.month
    omega

theorem ofCivil?_eq_self (d : Date) : ofCivil? d.year d.month d.day = some d := by
  rw [ofCivil?, dif_pos d.yearInRange, dif_pos d.dayInMonth]

theorem toList_text (d : Date) :
    d.text.toList =
      yearText d.year ++ '-' :: (Text.paddedNat 2 d.month ++ '-' :: Text.paddedNat 2 d.day) := by
  simp only [text, String.toList_ofList, List.append_assoc, List.cons_append]

theorem toList_text_append (d : Date) (rest : List Char) :
    d.text.toList ++ rest = yearText d.year ++ '-' ::
      (Text.paddedNat 2 d.month ++ '-' :: (Text.paddedNat 2 d.day ++ rest)) := by
  simp only [toList_text, List.append_assoc, List.cons_append]

/-- What is read off the front of a date's text is the date. -/
theorem takeCivil_text (gap : List Char → List Char) (hgap : ∀ cs, gap ('-' :: cs) = '-' :: cs)
    (d : Date) (stops : ∀ c ∈ rest.head?, c.isDigit = false) :
    takeCivil gap (d.text.toList ++ rest) = if (gap rest).isEmpty then some d else none := by
  obtain ⟨month, day⟩ := d.month_day_lt
  have hyphen : ∀ rest : List Char, ∀ c ∈ ('-' :: rest).head?, c.isDigit = false := by
    rintro _ _ ⟨⟩
    rfl
  rw [toList_text_append, takeCivil, takeYear_yearText]
  simp only [Option.bind_eq_bind, Option.bind_some, hgap, takeChar_cons,
    takeTwo_paddedNat month (hyphen _), takeTwo_paddedNat day stops, d.ofCivil?_eq_self]

/-- The text of a date reads as the date. -/
theorem parse?_text (d : Date) : parse? d.text = some d := by
  have read : takeCivil skipBlanks (d.text.toList ++ []) = some d :=
    takeCivil_text skipBlanks (skipBlanks_cons rfl) d fun _ next => nomatch next
  rw [List.append_nil] at read
  exact read

end EstateFiling.Date
