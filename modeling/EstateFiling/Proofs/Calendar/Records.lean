import EstateFiling.Proofs.Calendar.Days
import EstateFiling.Proofs.Text.Trimming

/-!
# Dates of records

A record holds a date or a timestamp, and both are read as the right day whatever blanks are
around them (`Date.records_read_dates`).

*Dates.*  What is read off the front of the text of a date is the date, and whether it is
taken depends on what follows alone (`Date.takeCivil_text`).  So the text of a date is a plain
date, and a timestamp, which goes on after it, is not.

*Timestamps.*  A `Timestamp` is a date with a time of day and a zone.  It has several
spellings: any fraction of a second, three marks between date and time, and two letters for
universal time.  Each of them is read as the date on which its instant falls in universal
time (`Date.ofTimestamp?_of_spells`), which is always in the range of the calendar
(`Timestamp.exists_date`).
-/

namespace EstateFiling

variable {rest : List Char}

/-! ## Timestamps -/

/-- A zone, by what its clocks are ahead of universal time or behind it. -/
inductive Zone where
  /-- Universal time. -/
  | universal
  /-- Ahead of it. -/
  | ahead (hours : Fin 24) (minutes : Fin 60)
  /-- Behind it. -/
  | behind (hours : Fin 24) (minutes : Fin 60)

namespace Zone

/-- The seconds that its clocks are ahead. -/
def seconds : Zone → Int
  | universal => 0
  | ahead hours minutes => 3600 * hours + 60 * minutes
  | behind hours minutes => -(3600 * hours + 60 * minutes)

/-- Hours and minutes in two digits each. -/
def hoursText (hours minutes : Nat) : List Char :=
  Text.paddedNat 2 hours ++ ':' :: Text.paddedNat 2 minutes

/-- A text of the zone. -/
def Spells : Zone → List Char → Prop
  | universal, cs => cs = ['Z'] ∨ cs = ['z']
  | ahead hours minutes, cs => cs = '+' :: hoursText hours minutes
  | behind hours minutes, cs => cs = '-' :: hoursText hours minutes

end Zone

/-- A date with a time of day and a zone. -/
structure Timestamp where
  /-- The date. -/
  date : Date
  /-- The hours since midnight. -/
  hour : Fin 24
  /-- The minutes since the hour. -/
  minute : Fin 60
  /-- The seconds since the minute. -/
  second : Fin 60
  /-- The digits of the fraction of a second, if any is given. -/
  fraction : List Char
  /-- The zone. -/
  zone : Zone
  /-- The year has four digits. -/
  fourDigits : 0 ≤ date.year ∧ date.year ≤ 9999
  /-- The fraction is in digits. -/
  digits : ∀ c ∈ fraction, c.isDigit = true

namespace Timestamp

/-- The time of day. -/
def clock (t : Timestamp) : List Char :=
  Text.paddedNat 2 t.hour ++ ':' :: (Text.paddedNat 2 t.minute ++ ':' :: Text.paddedNat 2 t.second)

/-- The fraction after its point, which is left out without any. -/
def fractionText (t : Timestamp) : List Char :=
  if t.fraction = [] then [] else '.' :: t.fraction

/-- A text of the timestamp. -/
def Spells (t : Timestamp) (cs : List Char) : Prop :=
  ∃ mark ∈ ['T', 't', ' '], ∃ zone, t.zone.Spells zone ∧
    cs = t.date.text.toList ++ mark :: (t.clock ++ (t.fractionText ++ zone))

/-- The instant, in whole seconds of universal time. -/
def instant (t : Timestamp) : Int :=
  86400 * t.date.dayNumber + 3600 * t.hour + 60 * t.minute + t.second - t.zone.seconds

end Timestamp

/-! ## The spelling of zones -/

namespace Zone

variable {z : Zone} {cs : List Char}

/-- A zone begins with a sign or a letter. -/
theorem Spells.begins (h : z.Spells cs) :
    ∃ sign tail, cs = sign :: tail ∧ sign ∈ ['Z', 'z', '+', '-'] := by
  cases z with
  | universal => rcases h with rfl | rfl <;> exact ⟨_, [], rfl, by decide⟩
  | ahead hours minutes => exact ⟨'+', _, h, by decide⟩
  | behind hours minutes => exact ⟨'-', _, h, by decide⟩

theorem nonblank_hoursText (hours minutes : Nat) :
    ∀ c ∈ hoursText hours minutes, Text.isBlank c = false :=
  List.forall_mem_append.mpr ⟨Text.nonblank_paddedNat 2 hours,
    List.forall_mem_cons.mpr ⟨by decide, Text.nonblank_paddedNat 2 minutes⟩⟩

theorem Spells.nonblank (h : z.Spells cs) : ∀ c ∈ cs, Text.isBlank c = false := by
  cases z with
  | universal => rcases h with rfl | rfl <;> exact List.forall_mem_singleton.mpr (by decide)
  | ahead hours minutes =>
    rw [h]
    exact List.forall_mem_cons.mpr ⟨by decide, nonblank_hoursText _ _⟩
  | behind hours minutes =>
    rw [h]
    exact List.forall_mem_cons.mpr ⟨by decide, nonblank_hoursText _ _⟩

end Zone

/-! ## The days of timestamps -/

/-- The instant of a timestamp falls on a date of the calendar. -/
theorem Timestamp.exists_date (t : Timestamp) : ∃ d : Date, d.dayNumber = t.instant / 86400 := by
  obtain ⟨starts, ends⟩ := t.date.dayNumber_inYear
  have lower := Date.daysBeforeYear_le t.fourDigits.1
  have upper := Date.daysBeforeYear_le (Int.add_le_add_right t.fourDigits.2 1)
  have zone : -86400 < t.zone.seconds ∧ t.zone.seconds < 86400 := by
    cases t.zone <;> simp only [Zone.seconds] <;> omega
  have first : Date.first.dayNumber < Date.daysBeforeYear 0 - 1 := by decide
  have last : Date.daysBeforeYear (9999 + 1) < Date.last.dayNumber := by decide
  rw [Date.exists_dayNumber_iff, instant]
  omega

/-! ## Reading timestamps -/

namespace Date

/-- A number in its width is taken off the front, whatever follows. -/
theorem takeDigits_width {width n : Nat} (pos : 0 < width) (h : n < 10 ^ width)
    (rest : List Char) :
    takeDigits width width (Text.paddedNat width n ++ rest) = some (n, rest) := by
  have length := length_paddedNat_of_lt pos h
  have digits : (Text.paddedNat width n).takeWhile Char.isDigit = Text.paddedNat width n :=
    List.takeWhile_eq_self_iff.mpr fun _ => Text.isDigit_of_mem_paddedNat
  rw [takeDigits, List.take_left' length, digits, if_neg (by omega), Text.digitsValue_paddedNat,
    List.drop_left]

theorem takeDigits_two {n : Nat} (h : n < 100) (rest : List Char) :
    takeDigits 2 2 (Text.paddedNat 2 n ++ rest) = some (n, rest) :=
  takeDigits_width (by decide) h rest

/-- A year without a sign. -/
theorem yearText_eq {year : Int} (h : 0 ≤ year ∧ year ≤ 9999) :
    yearText year = Text.paddedNat 4 year.toNat := by
  have same : year.natAbs = year.toNat := by omega
  rw [yearText, if_neg (by omega), if_neg (by omega), same]

theorem offsetSeconds?_hours {sign : Char} {factor : Int}
    (signed : sign = '+' ∧ factor = 1 ∨ sign = '-' ∧ factor = -1)
    (hours : Fin 24) (minutes : Fin 60) :
    offsetSeconds? (sign :: Zone.hoursText hours minutes)
      = some (factor * (3600 * hours + 60 * minutes)) := by
  have last := takeDigits_two (n := minutes) (by omega) []
  rw [List.append_nil] at last
  have first (rest : List Char) := takeDigits_two (n := hours) (by omega) rest
  rcases signed with ⟨rfl, rfl⟩ | ⟨rfl, rfl⟩ <;>
    simp [offsetSeconds?, Zone.hoursText, first, last, takeChar_cons]

/-- A zone is read as the seconds that its clocks are ahead. -/
theorem offsetSeconds?_of_spells {z : Zone} {cs : List Char} (h : z.Spells cs) :
    offsetSeconds? cs = some z.seconds := by
  cases z with
  | universal => rcases h with rfl | rfl <;> rfl
  | ahead hours minutes =>
    rw [h, offsetSeconds?_hours (Or.inl ⟨rfl, rfl⟩), Int.one_mul, Zone.seconds]
  | behind hours minutes =>
    rw [h, offsetSeconds?_hours (Or.inr ⟨rfl, rfl⟩), Int.neg_one_mul, Zone.seconds]

/-- The fraction of a second is passed over. -/
theorem takeFraction_fractionText (t : Timestamp) {zone : List Char} (h : t.zone.Spells zone) :
    takeFraction (t.fractionText ++ zone) = some zone := by
  obtain ⟨sign, tail, rfl, letter⟩ := h.begins
  have stops : sign.isDigit = false ∧ sign ≠ '.' := by
    have all : ∀ c ∈ ['Z', 'z', '+', '-'], c.isDigit = false ∧ c ≠ '.' := by simp
    exact all sign letter
  unfold Timestamp.fractionText
  split
  · rw [List.nil_append]
    unfold takeFraction
    split
    · rename_i point
      exact absurd (List.cons.inj point).1 stops.2
    · rfl
  · rename_i fractional
    obtain ⟨d, ds, digits⟩ := List.exists_cons_of_ne_nil fractional
    have all := t.digits
    rw [digits] at all ⊢
    have passed : (d :: ds ++ sign :: tail).dropWhile Char.isDigit = sign :: tail := by
      rw [List.dropWhile_append_of_pos all, List.dropWhile_cons_of_neg (by simp [stops.1])]
    rw [List.cons_append, List.cons_append] at *
    simp only [takeFraction, all d List.mem_cons_self, if_true, passed]

/-- A step of a reader that takes something hands it on. -/
theorem bind_of_eq_some {α β : Type} {x : Option α} {a : α} (h : x = some a) (f : α → Option β) :
    x >>= f = f a := by
  rw [h]
  rfl

/-- A timestamp is read as the date on which its instant falls. -/
theorem ofTimestamp?_of_spells {t : Timestamp} {cs : List Char} (h : t.Spells cs) :
    ofTimestamp? cs = ofDayNumber? (t.instant / 86400) := by
  obtain ⟨mark, marked, zone, spelled, rfl⟩ := h
  have marks : (mark == 'T' || mark == 't' || mark == ' ') = true := by
    have all : ∀ c ∈ ['T', 't', ' '], (c == 'T' || c == 't' || c == ' ') = true := by simp
    exact all mark marked
  obtain ⟨month, day⟩ := t.date.month_day_lt
  have hour := t.hour.isLt
  have minute := t.minute.isLt
  have second := t.second.isLt
  obtain ⟨positive, fourDigits⟩ := t.fourDigits
  have year : t.date.year.toNat < 10 ^ 4 := by omega
  have civil : ofCivil? (t.date.year.toNat : Int) t.date.month t.date.day = some t.date := by
    rw [Int.toNat_of_nonneg positive]
    exact t.date.ofCivil?_eq_self
  have inRange : (decide ((t.hour : Nat) < 24) && decide ((t.minute : Nat) < 60)
      && decide ((t.second : Nat) ≤ 60)) = true := by
    simp only [Bool.and_eq_true, decide_eq_true_eq]
    omega
  have whole : min (t.second : Nat) 59 = t.second := by omega
  rw [toList_text_append, yearText_eq t.fourDigits, Timestamp.clock]
  simp only [List.cons_append, List.append_assoc]
  -- The reader takes one piece after the other.
  refine (bind_of_eq_some (takeDigits_width (by decide) year _) _).trans ?_
  refine (bind_of_eq_some (takeChar_cons _ _) _).trans ?_
  refine (bind_of_eq_some (takeDigits_two month _) _).trans ?_
  refine (bind_of_eq_some (takeChar_cons _ _) _).trans ?_
  refine (bind_of_eq_some (takeDigits_two day _) _).trans ?_
  refine (if_pos marks).trans ?_
  refine (bind_of_eq_some rfl _).trans ?_
  refine (bind_of_eq_some (takeDigits_two (n := t.hour) (by omega) _) _).trans ?_
  refine (bind_of_eq_some (takeChar_cons _ _) _).trans ?_
  refine (bind_of_eq_some (takeDigits_two (n := t.minute) (by omega) _) _).trans ?_
  refine (bind_of_eq_some (takeChar_cons _ _) _).trans ?_
  refine (bind_of_eq_some (takeDigits_two (n := t.second) (by omega) _) _).trans ?_
  refine (bind_of_eq_some (takeFraction_fractionText t spelled) _).trans ?_
  refine (bind_of_eq_some (offsetSeconds?_of_spells spelled) _).trans ?_
  refine (bind_of_eq_some civil _).trans ?_
  refine (if_pos inRange).trans ?_
  rw [whole, addDays?, Timestamp.instant]
  congr 1
  omega

/-! ## Texts of dates -/

theorem nonblank_text (d : Date) : ∀ c ∈ d.text.toList, Text.isBlank c = false := by
  have year : ∀ c ∈ yearText d.year, Text.isBlank c = false := by
    unfold yearText
    dsimp only
    split_ifs
    · exact List.forall_mem_cons.mpr ⟨by decide, Text.nonblank_paddedNat _ _⟩
    · exact List.forall_mem_cons.mpr ⟨by decide, Text.nonblank_paddedNat _ _⟩
    · exact Text.nonblank_paddedNat _ _
  rw [toList_text]
  simp only [List.forall_mem_append, List.forall_mem_cons]
  exact ⟨year, by decide, Text.nonblank_paddedNat _ _, by decide, Text.nonblank_paddedNat _ _⟩

theorem plain?_text (d : Date) : plain? d.text.toList = some d := by
  have read : takeCivil id (d.text.toList ++ []) = some d :=
    takeCivil_text id (fun _ => rfl) d fun _ next => nomatch next
  rw [List.append_nil] at read
  exact read

/-- A timestamp is not a plain date. -/
theorem plain?_of_spells {t : Timestamp} {cs : List Char} (h : t.Spells cs) : plain? cs = none := by
  obtain ⟨mark, marked, zone, -, rfl⟩ := h
  refine takeCivil_text id (fun _ => rfl) t.date ?_
  rintro c ⟨⟩
  have all : ∀ c ∈ ['T', 't', ' '], c.isDigit = false := by simp
  exact all mark marked

/-! ## Records -/

/-- A record with such a text, and any blanks around it, holds the date. -/
def ReadFrom (d : Date) (cs : List Char) : Prop :=
  ∀ before after : List Char, (∀ c ∈ before, Text.isBlank c = true) →
    (∀ c ∈ after, Text.isBlank c = true) →
      ofRecord? (String.ofList (before ++ (cs ++ after))) = some d

theorem readFrom_of_trimmed {d : Date} {cs : List Char} (trimmed : Text.trimChars cs = cs)
    (nonempty : cs ≠ []) (read : (plain? cs).orElse (fun _ => ofTimestamp? cs) = some d) :
    d.ReadFrom cs := by
  intro before after front back
  rw [ofRecord?, String.toList_ofList, Text.trimChars_blanks_append front,
    Text.trimChars_append_blanks back, trimmed]
  simp only [List.isEmpty_eq_false_iff.mpr nonempty, Bool.false_eq_true, if_false, read]

theorem toList_text_ne_nil (d : Date) : d.text.toList ≠ [] := by
  rw [toList_text]
  exact List.append_ne_nil_of_right_ne_nil _ (List.cons_ne_nil _ _)

theorem trimChars_of_spells {t : Timestamp} {cs : List Char} (h : t.Spells cs) :
    Text.trimChars cs = cs := by
  obtain ⟨mark, marked, zone, spelled, rfl⟩ := h
  obtain ⟨sign, tail, begins, -⟩ := spelled.begins
  have date : Text.trim t.date.text = t.date.text := by
    rw [Text.trim, Text.trimChars_eq_self t.date.nonblank_text, String.ofList_toList]
  have ends : Text.trim (String.ofList zone) = String.ofList zone := by
    rw [Text.trim, String.toList_ofList, Text.trimChars_eq_self spelled.nonblank]
  have named : t.date.text ≠ "" := fun empty =>
    t.date.toList_text_ne_nil (String.toList_eq_nil_iff.mpr empty)
  have zoned : String.ofList zone ≠ "" := by
    rw [ne_eq, String.ofList_eq_empty_iff, begins]
    exact List.cons_ne_nil _ _
  have whole := congrArg String.toList (Text.trim_append_append
    (String.ofList (mark :: (t.clock ++ t.fractionText))) date ends named zoned)
  simpa [Text.trim] using whole

/-- The date of a record is the one that its text names, or in universal time the one of the
instant that it names, with any blanks around the text. -/
theorem records_read_dates :
    (∀ d : Date, d.ReadFrom d.text.toList)
    ∧ ∀ (t : Timestamp) (cs : List Char), t.Spells cs →
      ∃ d : Date, d.ReadFrom cs ∧ ∀ e : Date, e.dayNumber = t.instant / 86400 ↔ e = d := by
  refine ⟨fun d => ?date, fun t cs spelled => ?timestamp⟩
  case date =>
    refine readFrom_of_trimmed (Text.trimChars_eq_self d.nonblank_text) d.toList_text_ne_nil ?_
    rw [d.plain?_text]
    rfl
  case timestamp =>
    obtain ⟨d, number⟩ := t.exists_date
    refine ⟨d, readFrom_of_trimmed (trimChars_of_spells spelled) ?some ?read, fun e => ?unique⟩
    case some =>
      obtain ⟨mark, -, zone, -, rfl⟩ := spelled
      exact List.append_ne_nil_of_right_ne_nil _ (List.cons_ne_nil _ _)
    case read =>
      rw [plain?_of_spells spelled, ofTimestamp?_of_spells spelled, ← number,
        ofDayNumber?_dayNumber]
      rfl
    case unique =>
      rw [← number]
      exact ⟨dayNumber_injective, fun same => same ▸ rfl⟩

/-- The year zero begins, nearly a day ahead of universal time. -/
def zeroAhead : Timestamp where
  date := ⟨0, 1, 1, by decide, by decide⟩
  hour := 0
  minute := 0
  second := 0
  fraction := ['5']
  zone := .ahead 23 59
  fourDigits := by decide
  digits := by simp

/-- In universal time it is the last day of the year before, which is written with a sign.
Blanks around a leap day with five digits in its year do not matter. -/
theorem zeroAhead_read :
    zeroAhead.Spells "0000-01-01t00:00:00.5+23:59".toList
    ∧ (⟨-1, 12, 31, by decide, by decide⟩ : Date).ReadFrom "0000-01-01t00:00:00.5+23:59".toList
    ∧ (⟨12024, 2, 29, by decide, by decide⟩ : Date).ReadFrom "+12024-02-29".toList
    ∧ ofRecord? "\t +12024-02-29\n" = some ⟨12024, 2, 29, by decide, by decide⟩ := by
  obtain ⟨dates, timestamps⟩ := records_read_dates
  have spelled : zeroAhead.Spells "0000-01-01t00:00:00.5+23:59".toList :=
    ⟨'t', by decide, "+23:59".toList, by unfold Zone.Spells zeroAhead; decide, by decide⟩
  obtain ⟨d, read, only⟩ := timestamps zeroAhead _ spelled
  have eve := (only ⟨-1, 12, 31, by decide, by decide⟩).mp (by decide)
  have leapDay := dates ⟨12024, 2, 29, by decide, by decide⟩
  refine ⟨spelled, eve ▸ read, leapDay, ?_⟩
  exact leapDay "\t ".toList "\n".toList (List.all_eq_true.mp (by decide))
    (List.all_eq_true.mp (by decide))

end Date

end EstateFiling
