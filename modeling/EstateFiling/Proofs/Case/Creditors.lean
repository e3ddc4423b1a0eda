import EstateFiling.Proofs.Case.OverrideField
import EstateFiling.Proofs.Case.RoundTrip
import EstateFiling.Proofs.Money.Reading

/-!
# Creditors on record and entered by hand

The same data about creditors can come with the records of a case or be entered by hand in
their place.  On record an amount counts dollars.  The list entered by hand is decoded as
the estate writes it, where an amount counts cents, so every amount entered is a hundredth
of the same amount on record.  The two agree only where nothing is owed
(`CaseBundle.creditors_entered_eq_recorded_iff`).
-/

namespace EstateFiling

open Json

/-! ## Stated debts -/

/-- A creditor with the whole dollars owed: the name is trimmed and not blank, and the
dollars are an amount of money. -/
structure StatedDebt where
  /-- The name of the creditor. -/
  name : String
  /-- The name has no blanks around it. -/
  trimmed : Text.trim name = name
  /-- There is a name. -/
  named : name ≠ ""
  /-- The dollars owed. -/
  dollars : Nat
  /-- The cents are in the range of amounts. -/
  inRange : 100 * dollars < 0x8000000000000000

namespace StatedDebt

/-- The debt as a record of a case. -/
def record (d : StatedDebt) : CreditorRecord := ⟨some d.name, some (.nat d.dollars)⟩

/-- Debts as data, in the form in which values are kept. -/
def data (ds : List StatedDebt) : Json :=
  (Json.array (ds.map fun d => d.record.toJson)).canonical

/-- The amount owed. -/
def amount (d : StatedDebt) : Money :=
  ⟨100 * d.dollars, by omega, by have := d.inRange; omega⟩

/-- The amount whose cents are as many as the dollars owed. -/
def hundredth (d : StatedDebt) : Money :=
  ⟨d.dollars, by omega, by have := d.inRange; omega⟩

theorem hundredth_eq_amount_iff (d : StatedDebt) : d.hundredth = d.amount ↔ d.dollars = 0 := by
  rw [Money.ext_iff]
  show (d.dollars : Int) = 100 * d.dollars ↔ d.dollars = 0
  omega

/-! ## Two readings -/

/-- Decoded as records, the data are the records. -/
theorem decode_records (ds : List StatedDebt) :
    decodeValue? (decodeList CreditorRecord.decode) (data ds) = some (ds.map record) := by
  refine (Decodes.list_map (f := .canonical) fun d _ => ?_).decodeValue?
  have canonical : d.record.Canonical := by
    intro j hj
    obtain rfl := Option.some.inj hj
    rfl
  exact CreditorRecord.decodes canonical

/-- Decoded as creditors of an estate, the data count cents. -/
theorem decode_creditors (ds : List StatedDebt) :
    decodeValue? (decodeList Creditor.decode) (data ds)
      = some (ds.map fun d => ⟨d.name, some d.hundredth⟩) :=
  (Decodes.list_map (f := .canonical) fun d _ =>
    Creditor.decodes ⟨d.name, some d.hundredth⟩).decodeValue?

theorem creditor?_record (d : StatedDebt) :
    CaseBundle.creditor? d.record = some ⟨d.name, some d.amount⟩ := by
  have name : Field.text? d.record.name = some d.name := by
    have text : Field.text (some d.name) = d.name := d.trimmed
    rw [record, Field.text?, text]
    exact if_neg (by simpa using d.named)
  have amount : d.record.amount.bind moneyAmount? = some d.amount := by
    have dollars : (Json.nat d.dollars).moneyAmount? = Money.ofCents? (100 * d.dollars) := rfl
    rw [record, Option.bind_some, dollars, Money.ofCents?, dif_pos ⟨d.amount.lower, d.amount.upper⟩]
    rfl
  rw [CaseBundle.creditor?, name, amount, Option.map_some]

end StatedDebt

/-! ## Bundles -/

namespace CaseBundle

variable (b : CaseBundle) (ds : List StatedDebt)

/-- The bundle with debts entered by hand as its creditors. -/
def enterCreditors : CaseBundle :=
  { b with overrides := b.overrides.insert "creditors" (StatedDebt.data ds) }

/-- The bundle with debts on record as its creditors, and none entered by hand. -/
def recordCreditors : CaseBundle :=
  { b with
    case := { b.case with creditors := ds.map StatedDebt.record }
    overrides := b.overrides.erase "creditors" }

theorem creditors_enterCreditors :
    (b.enterCreditors ds).creditors = ds.map fun d => ⟨d.name, some d.hundredth⟩ := by
  have entered : (b.enterCreditors ds).overrides.get? "creditors" = some (StatedDebt.data ds) :=
    ManualOverrides.get?_insert_self b.overrides "creditors" _
  rw [creditors, ManualOverrides.value?, entered, Option.bind_some, StatedDebt.decode_creditors,
    Option.getD_some]

theorem creditors_recordCreditors :
    (b.recordCreditors ds).creditors = ds.map fun d => ⟨d.name, some d.amount⟩ := by
  have absent : (b.recordCreditors ds).overrides.get? "creditors" = none :=
    ManualOverrides.get?_erase_self b.overrides "creditors"
  rw [creditors, ManualOverrides.value?, absent, Option.bind_none, Option.getD_none,
    recordCreditors, List.filterMap_map, ← List.filterMap_eq_map]
  refine List.filterMap_congr fun d _ => ?_
  rw [Function.comp_apply, Function.comp_apply, d.creditor?_record]

/-- The same data about creditors, entered by hand and on record.  Entered by hand the
dollars become cents; so the estate has the same creditors both ways exactly where every
amount is zero. -/
theorem creditors_entered_eq_recorded_iff (settings : DocumentSettings) :
    decodeValue? (decodeList CreditorRecord.decode) (StatedDebt.data ds)
        = some (ds.map StatedDebt.record)
    ∧ ((b.enterCreditors ds).build settings).creditors
        = ds.map (fun d => ⟨d.name, some d.hundredth⟩)
    ∧ ((b.recordCreditors ds).build settings).creditors
        = ds.map (fun d => ⟨d.name, some d.amount⟩)
    ∧ (((b.enterCreditors ds).build settings).creditors
          = ((b.recordCreditors ds).build settings).creditors
        ↔ ∀ d ∈ ds, d.dollars = 0) := by
  have entered : ((b.enterCreditors ds).build settings).creditors
      = ds.map fun d => ⟨d.name, some d.hundredth⟩ := b.creditors_enterCreditors ds
  have recorded : ((b.recordCreditors ds).build settings).creditors
      = ds.map fun d => ⟨d.name, some d.amount⟩ := b.creditors_recordCreditors ds
  refine ⟨StatedDebt.decode_records ds, entered, recorded, ?_⟩
  rw [entered, recorded, List.map_inj_left]
  refine forall₂_congr fun d _ => ?_
  rw [Creditor.mk.injEq, Option.some.injEq, StatedDebt.hundredth_eq_amount_iff]
  exact and_iff_right rfl

/-- A hundred dollars owed to a bank. -/
def hundredToBank : StatedDebt := ⟨"Bank", by decide, by decide, 100, by decide⟩

theorem hundredToBank_entered_ne_recorded :
    ((({} : CaseBundle).enterCreditors [hundredToBank]).build {}).creditors
      ≠ ((({} : CaseBundle).recordCreditors [hundredToBank]).build {}).creditors := by
  decide

end CaseBundle

end EstateFiling
