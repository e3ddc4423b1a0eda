import EstateFiling.Proofs.Calendar.Days
import EstateFiling.Proofs.Form.CheckedBoxes

/-!
# The earliest day of the submission

The last delivery is the latest of the dates on which something was delivered
(`EstateModel.lastDelivery?_eq_some_iff`).  Dates are apart by their day numbers, so there is
one such date at most, and it depends on which dates there are and on nothing else
(`EstateModel.earliestSubmission?_congr`).  The submission may be filed when the notice
period has passed after it, if the calendar has that day
(`EstateModel.earliestSubmission?_eq_some_iff`).

The statement speaks of the calendar alone, which goes on day by day (`Date.DaysAfter`): the
day of the submission keeps every delivery at its distance, and the checklist prints it
(`EstateModel.submission_respects_deliveries`).
-/

namespace EstateFiling

/-! ## The latest of some dates -/

theorem Date.later_spec (a b : Date) :
    (later a b = a ∨ later a b = b)
      ∧ a.dayNumber ≤ (later a b).dayNumber ∧ b.dayNumber ≤ (later a b).dayNumber := by
  unfold later
  split
  · exact ⟨Or.inr rfl, by omega, Int.le_refl _⟩
  · exact ⟨Or.inl rfl, Int.le_refl _, by omega⟩

/-- The latest of some dates is one of them and after no other. -/
theorem Date.foldl_later_spec (d : Date) (ds : List Date) :
    ds.foldl later d ∈ d :: ds ∧ ∀ e ∈ d :: ds, e.dayNumber ≤ (ds.foldl later d).dayNumber := by
  induction ds generalizing d with
  | nil =>
    refine ⟨List.mem_singleton_self d, fun e he => ?_⟩
    rw [List.mem_singleton.mp he]
    exact Int.le_refl _
  | cons e ds ih =>
    obtain ⟨one, left, right⟩ := later_spec d e
    obtain ⟨member, upper⟩ := ih (later d e)
    obtain ⟨first, others⟩ := List.forall_mem_cons.mp upper
    rw [List.foldl_cons]
    constructor
    · rcases List.mem_cons.mp member with same | later
      · rw [same]
        rcases one with same | same <;> simp [same]
      · exact List.mem_cons_of_mem _ (List.mem_cons_of_mem _ later)
    · exact List.forall_mem_cons.mpr ⟨Int.le_trans left first,
        List.forall_mem_cons.mpr ⟨Int.le_trans right first, others⟩⟩

namespace EstateModel

variable {m m' : EstateModel} {d : Date}

/-- Something was delivered on a date. -/
def DeliveredOn (m : EstateModel) (d : Date) : Prop := ∃ e ∈ m.deliveries, e.deliveredOn = some d

/-- The latest date on which something was delivered. -/
def IsLastDelivery (m : EstateModel) (d : Date) : Prop :=
  m.DeliveredOn d ∧ ∀ e, m.DeliveredOn e → d.NotBefore e

theorem deliveredOn_iff_mem : m.DeliveredOn d ↔ d ∈ m.deliveries.filterMap Delivery.deliveredOn :=
  List.mem_filterMap.symm

/-- There is one latest date at most. -/
theorem IsLastDelivery.eq {e : Date} (hd : m.IsLastDelivery d) (he : m.IsLastDelivery e) :
    d = e := by
  have left := Date.notBefore_iff.mp (hd.2 e he.1)
  have right := Date.notBefore_iff.mp (he.2 d hd.1)
  exact Date.dayNumber_injective (Int.le_antisymm right left)

theorem lastDelivery?_eq_none_iff : m.lastDelivery? = none ↔ ∀ d, ¬ m.DeliveredOn d := by
  simp only [deliveredOn_iff_mem, lastDelivery?]
  cases dates : m.deliveries.filterMap Delivery.deliveredOn with
  | nil => simp
  | cons d ds => exact iff_of_false (fun h => nomatch h) fun undated => undated d List.mem_cons_self

theorem isLastDelivery_of_lastDelivery? (h : m.lastDelivery? = some d) : m.IsLastDelivery d := by
  unfold IsLastDelivery
  simp only [deliveredOn_iff_mem, Date.notBefore_iff]
  unfold lastDelivery? at h
  cases dates : m.deliveries.filterMap Delivery.deliveredOn with
  | nil =>
    rw [dates] at h
    cases h
  | cons first rest =>
    rw [dates] at h
    obtain rfl := Option.some.inj h
    exact Date.foldl_later_spec first rest

/-- The last delivery is the latest. -/
theorem lastDelivery?_eq_some_iff : m.lastDelivery? = some d ↔ m.IsLastDelivery d := by
  refine ⟨isLastDelivery_of_lastDelivery?, fun last => ?_⟩
  cases found : m.lastDelivery? with
  | none => exact absurd last.1 (lastDelivery?_eq_none_iff.mp found d)
  | some e => rw [(isLastDelivery_of_lastDelivery? found).eq last]

/-! ## The end of the notice period -/

theorem earliestSubmission?_eq_some_iff :
    m.earliestSubmission? = some d ↔ ∃ l, m.IsLastDelivery l ∧ l.DaysAfter noticePeriodDays d := by
  unfold earliestSubmission?
  simp only [Option.bind_eq_some_iff, lastDelivery?_eq_some_iff, Date.addDays?_eq_some_iff]

/-- There is no such day if nothing has a date, or if the calendar ends before. -/
theorem earliestSubmission?_eq_none_iff :
    m.earliestSubmission? = none ↔
      (∀ d, ¬ m.DeliveredOn d)
      ∨ ∃ l, m.IsLastDelivery l ∧ ∃ n < noticePeriodDays, l.DaysAfter n Date.last := by
  unfold earliestSubmission?
  cases found : m.lastDelivery? with
  | none => exact iff_of_true rfl (Or.inl (lastDelivery?_eq_none_iff.mp found))
  | some l =>
    have last := isLastDelivery_of_lastDelivery? found
    rw [Option.bind_some, Date.addDays?_eq_none_iff]
    constructor
    · exact fun few => Or.inr ⟨l, last, few⟩
    · rintro (undated | ⟨other, latest, few⟩)
      · exact absurd last.1 (undated l)
      · rwa [last.eq latest]

/-- Only the dates on which something was delivered count. -/
theorem earliestSubmission?_congr (same : ∀ d, m'.DeliveredOn d ↔ m.DeliveredOn d) :
    m'.earliestSubmission? = m.earliestSubmission? := by
  have last (d : Date) : m'.IsLastDelivery d ↔ m.IsLastDelivery d := by
    simp only [IsLastDelivery, same]
  apply Option.ext
  intro d
  rw [earliestSubmission?_eq_some_iff, earliestSubmission?_eq_some_iff]
  simp only [last]

/-- More deliveries do not make the day earlier. -/
theorem earliestSubmission?_mono {d' : Date} (more : ∀ e, m.DeliveredOn e → m'.DeliveredOn e)
    (before : m.earliestSubmission? = some d) (after : m'.earliestSubmission? = some d') :
    d'.NotBefore d := by
  obtain ⟨l, last, distance⟩ := earliestSubmission?_eq_some_iff.mp before
  obtain ⟨l', last', distance'⟩ := earliestSubmission?_eq_some_iff.mp after
  have later := Date.notBefore_iff.mp (last'.2 l (more l last.1))
  rw [Date.daysAfter_iff] at distance distance'
  rw [Date.notBefore_iff]
  omega

end EstateModel

/-! ## The checklist -/

namespace ChecklistLetter

variable (style : StyleProfile) (m : EstateModel)

theorem checks_scheduled_iff :
    (m.document style .filingChecklistLetter).Checks "earliest_submission" "scheduled" ↔
      m.filing.deliveryWaived = false ∧ ∃ d, m.earliestSubmission? = some d := by
  refine (m.checks_clause_iff style (t := earliestSubmission)
    (List.mem_cons_of_mem _ List.mem_cons_self) (by decide) _).trans ?_
  simp [ClauseTable.Settles, earliestSubmission, Option.isSome_iff_exists]

/-- What the checklist says where the day is known. -/
def scheduledText (d : Date) : String :=
  "The submission may be filed on or after " ++ d.longText
    ++ ", which is 21 days after the last delivery."

/-- The period is printed in days. -/
theorem append_noticePeriod (text : String) :
    text ++ ", which is " ++ toString noticePeriodDays ++ " days after the last delivery."
      = text ++ ", which is 21 days after the last delivery." := by
  rw [String.append_assoc, String.append_assoc]
  exact congrArg (text ++ ·) (by decide)

theorem labels_scheduled {d : Date} (h : m.earliestSubmission? = some d) :
    (m.document style .filingChecklistLetter).labels "earliest_submission" "scheduled" =
      [scheduledText d] := by
  have once : "earliest_submission" ∉
      ([Compose.passageGroup style deliveryStep m (deliveryOptions m)]
        ++ [Compose.passageGroup style creditorNotice m creditorOptions]).map CheckboxGroup.id :=
    (by decide : "earliest_submission" ∉ ["delivery_step", "creditor_notice"])
  have worded : ((submissionOptions m).filter fun o => o.1 == "scheduled").map Prod.snd
      = ["The submission may be filed on or after " ++ Filler.dateOrDots m.earliestSubmission? 20
          ++ ", which is " ++ toString noticePeriodDays ++ " days after the last delivery."] := rfl
  have day : Filler.dateOrDots m.earliestSubmission? 20 = d.longText := by rw [h]; rfl
  refine (DocumentContent.labels_passage (t := earliestSubmission)
    (checkboxGroups_document style m) once "scheduled").trans ?_
  rw [worded, day, append_noticePeriod]
  rfl

end ChecklistLetter

/-! ## Every delivery -/

/-- The earliest day of the submission keeps the notice period after every delivery. -/
structure EstateModel.RespectsDeliveries (m : EstateModel) (style : StyleProfile) : Prop where
  /-- There is none if no delivery has a date, or if the calendar ends too soon after the
  last one. -/
  absent : m.earliestSubmission? = none ↔
    (∀ e ∈ m.deliveries, e.deliveredOn = none)
    ∨ ∃ l, m.IsLastDelivery l ∧ ∃ n < 21, l.DaysAfter n Date.last
  /-- It is 21 days after a delivery. -/
  afterOne : ∀ d, m.earliestSubmission? = some d → ∃ l, m.DeliveredOn l ∧ l.DaysAfter 21 d
  /-- It is at least 21 days after each. -/
  afterEach : ∀ d, m.earliestSubmission? = some d →
    ∀ l, m.DeliveredOn l → ∃ n, 21 ≤ n ∧ l.DaysAfter n d
  /-- The order of the deliveries does not matter. -/
  reordered : ∀ m' : EstateModel, m'.deliveries.Perm m.deliveries →
    m'.earliestSubmission? = m.earliestSubmission?
  /-- Nor do those without a date. -/
  undated : ∀ m' : EstateModel,
    m'.deliveries.filter (fun e => e.deliveredOn.isSome)
      = m.deliveries.filter (fun e => e.deliveredOn.isSome) →
    m'.earliestSubmission? = m.earliestSubmission?
  /-- One delivery more does not make it earlier. -/
  added : ∀ (m' : EstateModel) (e : Delivery), m'.deliveries.Perm (e :: m.deliveries) →
    ∀ d d', m.earliestSubmission? = some d → m'.earliestSubmission? = some d' → d'.NotBefore d
  /-- The checklist says that the day is known exactly if delivery is not waived and there is
  such a day. -/
  scheduled : (m.document style .filingChecklistLetter).Checks "earliest_submission" "scheduled" ↔
    m.filing.deliveryWaived = false ∧ ∃ d, m.earliestSubmission? = some d
  /-- It prints the day. -/
  printed : ∀ d, m.earliestSubmission? = some d →
    (m.document style .filingChecklistLetter).labels "earliest_submission" "scheduled"
      = ["The submission may be filed on or after " ++ d.longText
          ++ ", which is 21 days after the last delivery."]

namespace EstateModel

theorem exists_deliveredOn_iff {m : EstateModel} :
    (∀ d, ¬ m.DeliveredOn d) ↔ ∀ e ∈ m.deliveries, e.deliveredOn = none := by
  simp only [Option.eq_none_iff_forall_ne_some, DeliveredOn, not_exists, not_and]
  exact ⟨fun undated e he d => undated d e he, fun undated d e he => undated e he d⟩

theorem deliveredOn_of_undated {m m' : EstateModel}
    (same : m'.deliveries.filter (fun e => e.deliveredOn.isSome)
      = m.deliveries.filter (fun e => e.deliveredOn.isSome)) (d : Date) :
    m'.DeliveredOn d ↔ m.DeliveredOn d := by
  have dated (m : EstateModel) : m.DeliveredOn d ↔
      ∃ e ∈ m.deliveries.filter (fun e => e.deliveredOn.isSome), e.deliveredOn = some d := by
    refine exists_congr fun e => ?_
    rw [List.mem_filter, and_assoc, and_congr_right_iff]
    intro _
    exact ⟨fun on => ⟨by rw [on]; rfl, on⟩, And.right⟩
  rw [dated, dated, same]

/-- The earliest day of the submission respects every delivery, and the checklist prints it. -/
theorem submission_respects_deliveries (m : EstateModel) (style : StyleProfile) :
    m.RespectsDeliveries style where
  absent := by rw [earliestSubmission?_eq_none_iff, exists_deliveredOn_iff]; rfl
  afterOne d found := by
    obtain ⟨l, last, distance⟩ := earliestSubmission?_eq_some_iff.mp found
    exact ⟨l, last.1, distance⟩
  afterEach d found l delivered := by
    obtain ⟨last, latest, distance⟩ := earliestSubmission?_eq_some_iff.mp found
    obtain ⟨n, before⟩ := latest.2 l delivered
    refine ⟨n + 21, Nat.le_add_left 21 n, ?_⟩
    rw [Date.daysAfter_iff] at before distance ⊢
    rw [distance, before, noticePeriodDays]
    omega
  reordered m' order := earliestSubmission?_congr fun d =>
    exists_congr fun e => and_congr_left' order.mem_iff
  undated m' same := earliestSubmission?_congr (deliveredOn_of_undated same)
  added m' e order d d' := earliestSubmission?_mono fun l ⟨one, recorded, on⟩ =>
    ⟨one, order.mem_iff.mpr (List.mem_cons_of_mem e recorded), on⟩
  scheduled := ChecklistLetter.checks_scheduled_iff style m
  printed _ := ChecklistLetter.labels_scheduled style m

/-- Deliveries before a leap day, one without a date between them. -/
def leapDeliveries : EstateModel where
  deliveries :=
    [{ recipient := "Ann Lee", method := .postal,
        deliveredOn := some ⟨2024, 2, 9, by decide, by decide⟩ },
      { recipient := "Bo Lee", method := .personal },
      { recipient := "Cy Lee", method := .electronic,
        deliveredOn := some ⟨2023, 12, 31, by decide, by decide⟩ }]

/-- Three weeks after the ninth of February it is the first of March in a leap year, which is
in the ninth week after New Year's Eve. -/
theorem leapDeliveries_respected :
    leapDeliveries.earliestSubmission? = some ⟨2024, 3, 1, by decide, by decide⟩
    ∧ (∃ l, leapDeliveries.DeliveredOn l ∧ l.DaysAfter 21 ⟨2024, 3, 1, by decide, by decide⟩)
    ∧ (∃ n, 21 ≤ n ∧ (⟨2023, 12, 31, by decide, by decide⟩ : Date).DaysAfter n
        ⟨2024, 3, 1, by decide, by decide⟩)
    ∧ (leapDeliveries.document .standard .filingChecklistLetter).Checks
        "earliest_submission" "scheduled"
    ∧ (leapDeliveries.document .standard .filingChecklistLetter).labels
        "earliest_submission" "scheduled"
      = ["The submission may be filed on or after March 1, 2024, which is 21 days after the "
          ++ "last delivery."] := by
  have law := leapDeliveries.submission_respects_deliveries .standard
  have day : leapDeliveries.earliestSubmission? = some ⟨2024, 3, 1, by decide, by decide⟩ := by
    decide
  have eve : leapDeliveries.DeliveredOn ⟨2023, 12, 31, by decide, by decide⟩ :=
    ⟨leapDeliveries.deliveries[2], by decide, by decide⟩
  refine ⟨day, law.afterOne _ day, law.afterEach _ day _ eve, law.scheduled.mpr ⟨rfl, _, day⟩, ?_⟩
  rw [law.printed _ day]
  decide

end EstateModel

end EstateFiling
