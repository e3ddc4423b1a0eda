import EstateFiling.Proofs.Money.Reading
import EstateFiling.Proofs.Text.Digits
import EstateFiling.Proofs.Text.Trimming
import Mathlib.Algebra.Group.Nat.Defs

/-!
# Amounts as people write them

A `WrittenAmount` has digits before a point, at most two digits after it, and at least one
digit.  It is spelled with the point, or without it if nothing follows.  What the reader
keeps of a text (`Money.cleaned`) is an amount exactly if it spells a written amount whose
cents are in range, and the amount has exactly these cents (`Money.parse?_iff_spells`).
-/

namespace EstateFiling

/-- An amount as it is written. -/
structure WrittenAmount where
  /-- The digits before the point. -/
  whole : List Char
  /-- The digits after the point. -/
  fraction : List Char
  /-- They are the ten digits of ASCII. -/
  digits : ∀ c ∈ whole ++ fraction, c.isDigit = true
  /-- There are tenths and hundredths at most. -/
  short : fraction.length ≤ 2
  /-- Something is written. -/
  nonempty : whole ++ fraction ≠ []

namespace WrittenAmount

variable {a : WrittenAmount} {t whole fraction : List Char}

/-- The cents that are written; a single digit after the point counts tenths. -/
def cents (a : WrittenAmount) : Nat :=
  100 * Nat.ofDigitChars 10 a.whole 0
    + Nat.ofDigitChars 10 a.fraction 0 * 10 ^ (2 - a.fraction.length)

/-- A text of the amount; a point with nothing after it may be left out. -/
def Spells (a : WrittenAmount) (t : List Char) : Prop :=
  t = a.whole ++ '.' :: a.fraction ∨ t = a.whole ∧ a.fraction = []

/-! ## Zeros in front -/

/-- The amount with zeros in front. -/
def zeros (k : Nat) (a : WrittenAmount) : WrittenAmount where
  whole := List.replicate k '0' ++ a.whole
  fraction := a.fraction
  digits := by
    rw [List.append_assoc]
    refine List.forall_mem_append.mpr ⟨fun c hc => ?_, a.digits⟩
    rw [List.eq_of_mem_replicate hc]
    rfl
  short := a.short
  nonempty := by
    rw [List.append_assoc]
    exact List.append_ne_nil_of_right_ne_nil _ a.nonempty

/-- Zeros in front count nothing. -/
theorem cents_zeros (k : Nat) (a : WrittenAmount) : (a.zeros k).cents = a.cents := by
  unfold cents zeros
  rw [Nat.ofDigitChars_append, Nat.ofDigitChars_replicate_zero, Nat.mul_zero]

theorem Spells.zeros (h : a.Spells t) (k : Nat) :
    (a.zeros k).Spells (List.replicate k '0' ++ t) := by
  rcases h with rfl | ⟨rfl, noFraction⟩
  · exact Or.inl (List.append_assoc ..).symm
  · exact Or.inr ⟨rfl, noFraction⟩

/-! ## The parts around a point -/

/-- What the reader asks of the parts around a point. -/
theorem parts_iff (whole fraction : List Char) :
    (2 < fraction.length || !whole.all Char.isDigit || !fraction.all Char.isDigit
        || (whole.isEmpty && fraction.isEmpty)) = false
      ↔ ∃ a : WrittenAmount, a.whole = whole ∧ a.fraction = fraction := by
  have nonempty_iff : (whole.isEmpty && fraction.isEmpty) = false ↔ whole ++ fraction ≠ [] := by
    rw [ne_eq, List.append_eq_nil_iff, ← List.isEmpty_iff, ← List.isEmpty_iff, ← Bool.and_eq_true,
      Bool.not_eq_true]
  simp only [Bool.or_eq_false_iff, decide_eq_false_iff_not, Nat.not_lt, Bool.not_eq_false',
    List.all_eq_true, nonempty_iff]
  constructor
  · rintro ⟨⟨⟨short, digits⟩, fractionDigits⟩, nonempty⟩
    exact ⟨⟨whole, fraction, List.forall_mem_append.mpr ⟨digits, fractionDigits⟩, short, nonempty⟩,
      rfl, rfl⟩
  · rintro ⟨a, rfl, rfl⟩
    obtain ⟨digits, fractionDigits⟩ := List.forall_mem_append.mp a.digits
    exact ⟨⟨⟨a.short, digits⟩, fractionDigits⟩, a.nonempty⟩

/-- A text is cut at its point. -/
theorem Spells.splitFirst (h : a.Spells t) :
    ∃ after, Text.splitFirst (· == '.') t = (a.whole, after) ∧ after.getD [] = a.fraction := by
  have pointless : ∀ c ∈ a.whole, (c == '.') = false := by
    intro c hc
    refine beq_eq_false_iff_ne.mpr ?_
    rintro rfl
    cases a.digits _ (List.mem_append_left _ hc)
  rcases h with rfl | ⟨rfl, noFraction⟩
  · exact ⟨_, Text.splitFirst_append_cons pointless (by decide) _, rfl⟩
  · exact ⟨_, Text.splitFirst_eq_self pointless, noFraction.symm⟩

theorem fractionCents_eq (a : WrittenAmount) :
    Money.fractionCents a.fraction
      = Nat.ofDigitChars 10 a.fraction 0 * 10 ^ (2 - a.fraction.length) := by
  match a.fraction, a.short with
  | [], _ => rfl
  | [_], _ =>
    rw [Money.fractionCents, Text.digitsValue_eq_ofDigitChars]
    exact Nat.mul_comm ..
  | [_, _], _ =>
    rw [Money.fractionCents, Text.digitsValue_eq_ofDigitChars]
    · exact (Nat.mul_one _).symm
    · simp

end WrittenAmount

namespace Money

open WrittenAmount

variable {m : Money} {s : String} {a : WrittenAmount}

/-! ## Reading -/

/-- A written amount is read as its cents, if they are in range. -/
theorem parse?_of_spells (h : a.Spells (cleaned s)) : parse? s = ofCents? a.cents := by
  obtain ⟨after, cut, fraction⟩ := h.splitFirst
  have parts := (parts_iff a.whole a.fraction).mpr ⟨a, rfl, rfl⟩
  unfold parse?
  simp only [cut, fraction, parts, Bool.false_eq_true, if_false, a.fractionCents_eq,
    Text.digitsValue_eq_ofDigitChars]
  rfl

/-- What is read is a written amount. -/
theorem exists_spells_of_parse? (h : parse? s = some m) :
    ∃ a : WrittenAmount, a.Spells (cleaned s) := by
  unfold parse? at h
  generalize cleaned s = t at h
  rcases Text.splitFirst_cases (· == '.') t with ⟨-, cut⟩ | ⟨whole, point, fraction, rfl, hp, cut⟩
  · simp only [cut, Option.ite_none_left_eq_some, Bool.not_eq_true] at h
    obtain ⟨a, rfl, noFraction⟩ := (parts_iff _ _).mp h.1
    exact ⟨a, Or.inr ⟨rfl, noFraction⟩⟩
  · obtain rfl := beq_iff_eq.mp hp
    simp only [cut, Option.getD_some, Option.ite_none_left_eq_some, Bool.not_eq_true] at h
    obtain ⟨a, rfl, rfl⟩ := (parts_iff _ _).mp h.1
    exact ⟨a, Or.inl rfl⟩

/-- The reader accepts exactly the written amounts in range, each as its exact cents.  So it
finds nothing below zero, and zeros in front of what it accepts do not matter. -/
theorem parse?_iff_spells (s : String) :
    (∀ m : Money, parse? s = some m ↔
      ∃ a : WrittenAmount, a.Spells (cleaned s) ∧ (a.cents : Int) ≤ maximum.cents
        ∧ m.cents = a.cents)
    ∧ (∀ m ∈ parse? s, 0 ≤ m.cents)
    ∧ ∀ m ∈ parse? s, ∀ (k : Nat) (s' : String),
        cleaned s' = List.replicate k '0' ++ cleaned s → parse? s' = some m := by
  refine ⟨fun m => ⟨fun h => ?read, ?written⟩, fun m h => parse?_nonneg h,
    fun m h k s' padded => ?zeros⟩
  case read =>
    obtain ⟨a, spelled⟩ := exists_spells_of_parse? h
    rw [parse?_of_spells spelled] at h
    have exact := cents_of_ofCents? h
    exact ⟨a, spelled, exact ▸ Int.le_of_lt_add_one m.upper, exact⟩
  case written =>
    rintro ⟨a, spelled, -, exact⟩
    rw [parse?_of_spells spelled, ← exact, ofCents?_cents]
  case zeros =>
    obtain ⟨a, spelled⟩ := exists_spells_of_parse? h
    have again : (a.zeros k).Spells (cleaned s') := padded ▸ spelled.zeros k
    rw [parse?_of_spells again, cents_zeros, ← parse?_of_spells spelled]
    exact h

/-- Zeros, dollar signs, commas and blanks in front. -/
example : parse? "$000,000,000,000,000,000,000,012.5" = ofCents? 1250 := by
  decide

end Money

end EstateFiling
