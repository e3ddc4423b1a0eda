import EstateFiling.Estate.Model

/-!
# The notice period

The submission may be filed when a number of days have passed since the last
delivery of the notice.
-/

namespace EstateFiling

/-- The days that must pass after a delivery. -/
def noticePeriodDays : Nat := 21

namespace EstateModel

/-- The last day on which a notice was delivered. -/
def lastDelivery? (m : EstateModel) : Option Date :=
  match m.deliveries.filterMap Delivery.deliveredOn with
  | [] => none
  | d :: ds => some (ds.foldl Date.later d)

/-- The day from which the submission may be filed, if a delivery has a date and
the calendar has that day. -/
def earliestSubmission? (m : EstateModel) : Option Date :=
  m.lastDelivery?.bind (fun d => d.addDays? noticePeriodDays)

end EstateModel

end EstateFiling
