import EstateFiling.Text.Ascii
import EstateFiling.Text.Blank

/-!
# Numbers in decimal

The digits of a number read back as the number, with or without zeros in front
(`Text.digitsValue_toDigits`, `Text.digitsValue_paddedNat`), and a number is written without
zeros in front (`Text.head?_toDigits`).  Digits are not blank, so
nothing is lost when a text of digits is trimmed.  A number in front of something that
is no digit is read off the front (`Text.leadingNat_append`).
-/

namespace EstateFiling.Text

theorem isBlank_eq_false_of_isDigit {c : Char} (h : c.isDigit = true) : isBlank c = false := by
  obtain ⟨lower, upper⟩ := Char.isDigit_iff_toNat.mp h
  have low : 48 ≤ c.toNat := lower
  have high : c.toNat ≤ 57 := upper
  simp only [isBlank, Bool.or_eq_false_iff, Bool.and_eq_false_iff, decide_eq_false_iff_not,
    beq_eq_false_iff_ne]
  omega

theorem digitsValue_eq_ofDigitChars (ds : List Char) :
    digitsValue ds = Nat.ofDigitChars 10 ds 0 := by
  rw [Nat.ofDigitChars_eq_foldl]
  rfl

/-- The digits of a number read back. -/
theorem digitsValue_toDigits (n : Nat) : digitsValue (Nat.toDigits 10 n) = n := by
  rw [digitsValue_eq_ofDigitChars, Nat.ofDigitChars_ten_toDigits]

/-- Only zero is written with a zero in front. -/
theorem head?_toDigits {n : Nat} (pos : 0 < n) : (Nat.toDigits 10 n).head? ≠ some '0' := by
  induction n using Nat.strongRecOn with
  | ind n ih =>
    by_cases small : n < 10
    · rw [Nat.toDigits_of_lt_base small]
      have digits : ∀ k < 10, 0 < k → some k.digitChar ≠ some '0' := by decide
      exact digits n small pos
    · obtain ⟨d, ds, digits⟩ :=
        List.exists_cons_of_ne_nil (Nat.toDigits_ne_nil (b := 10) (n := n / 10))
      have first := ih (n / 10) (by omega) (by omega)
      rw [digits, List.head?_cons] at first
      rw [Nat.toDigits_of_base_le (by decide) (by omega), digits, List.cons_append, List.head?_cons]
      exact first

/-! ## Numbers in front of a text -/

/-- The number that a text begins with. -/
def leadingNat (cs : List Char) : Nat := digitsValue (cs.takeWhile Char.isDigit)

theorem isDigit_of_mem_toString {n : Nat} {c : Char} (h : c ∈ (toString n).toList) :
    c.isDigit = true := by
  rw [Nat.toString_eq_repr, Nat.toList_repr] at h
  exact Nat.isDigit_of_mem_toDigits (by decide) (by decide) h

theorem toList_toString_ne_nil (n : Nat) : (toString n).toList ≠ [] := by
  rw [Nat.toString_eq_repr, Nat.toList_repr]
  exact Nat.toDigits_ne_nil

theorem any_isDigit_head?_toString (n : Nat) (cs : List Char) :
    ((toString n).toList ++ cs).head?.any Char.isDigit = true := by
  obtain ⟨d, ds, h⟩ := List.exists_cons_of_ne_nil (toList_toString_ne_nil n)
  rw [h]
  exact isDigit_of_mem_toString (h ▸ List.mem_cons_self)

/-- A number that something else follows is read off the front. -/
theorem leadingNat_append (n : Nat) {c : Char} (h : c.isDigit = false) (cs : List Char) :
    leadingNat ((toString n).toList ++ c :: cs) = n := by
  unfold leadingNat
  rw [List.takeWhile_append_of_pos fun a ha => isDigit_of_mem_toString ha,
    List.takeWhile_cons_of_neg (by simp [h]), List.append_nil, Nat.toString_eq_repr,
    Nat.toList_repr, digitsValue_toDigits]

theorem dropWhile_isDigit_append (n : Nat) {c : Char} (h : c.isDigit = false) (cs : List Char) :
    ((toString n).toList ++ c :: cs).dropWhile Char.isDigit = c :: cs := by
  rw [List.dropWhile_append_of_pos fun a ha => isDigit_of_mem_toString ha,
    List.dropWhile_cons_of_neg (by simp [h])]

/-! ## Zeros in front -/

/-- Zeros in front do not change what is read. -/
theorem digitsValue_paddedNat (width n : Nat) : digitsValue (paddedNat width n) = n := by
  unfold paddedNat
  rw [digitsValue_eq_ofDigitChars, Nat.ofDigitChars_append, Nat.ofDigitChars_replicate_zero,
    Nat.mul_zero, Nat.ofDigitChars_ten_toDigits]

theorem isDigit_of_mem_paddedNat {width n : Nat} {c : Char} (h : c ∈ paddedNat width n) :
    c.isDigit = true := by
  rcases List.mem_append.mp h with zero | digit
  · rw [List.eq_of_mem_replicate zero]
    rfl
  · exact Nat.isDigit_of_mem_toDigits (by decide) (by decide) digit

theorem nonblank_paddedNat (width n : Nat) : ∀ c ∈ paddedNat width n, isBlank c = false :=
  fun _ hc => isBlank_eq_false_of_isDigit (isDigit_of_mem_paddedNat hc)

/-- A number that fits takes exactly the width asked for. -/
theorem length_paddedNat {width n : Nat} (fits : (Nat.toDigits 10 n).length ≤ width) :
    (paddedNat width n).length = width := by
  unfold paddedNat
  rw [List.length_append, List.length_replicate]
  omega

end EstateFiling.Text
