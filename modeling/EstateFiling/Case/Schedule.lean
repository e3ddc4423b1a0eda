import EstateFiling.Case.Field
import EstateFiling.Case.Record
import EstateFiling.Estate.Asset

/-!
# Schedules of assets

A schedule line goes into the collection its category names; a line of an unknown
category goes nowhere.  Within a collection the lines keep their order.  A value
that is missing or malformed counts as zero.  In the collections that carry
debts, a line has a secured debt if it names a creditor or a positive amount.

Lines come from three places: the records of a case, the answers of an intake
interview, whose items may use several names for a field, and lists entered by
hand in place of a collection.  A list entered by hand is taken whole or not at
all: one amount that is negative or malformed makes it void.
-/

namespace EstateFiling

/-! ## Placing lines -/

namespace ScheduleRecord

/-- The amount of a field, zero when it is missing or malformed. -/
def amount (value : Option Json) : Money := (value.bind Json.moneyAmount?).getD Money.zero

/-- The debt a line states. -/
def securedDebt? (r : ScheduleRecord) : Option SecuredDebt :=
  let creditor := Field.text r.securedCreditor
  let amount := amount r.securedAmount
  if 0 < amount.cents || !creditor.isEmpty then some ⟨creditor, amount⟩ else none

/-- The asset of a line. -/
def asset (r : ScheduleRecord) : Asset := ⟨Text.trim r.description, amount r.value⟩

/-- The asset of a line with the debt it secures. -/
def securedAsset (r : ScheduleRecord) : SecuredAsset :=
  ⟨Text.trim r.description, amount r.value, r.securedDebt?⟩

/-- Whether a line belongs to a category. -/
def isOf (category : AssetCategory) (r : ScheduleRecord) : Bool :=
  AssetCategory.parse? r.category = some category

end ScheduleRecord

namespace AssetSchedule

/-- The schedule with each line in the collection of its category. -/
def ofRecords (records : List ScheduleRecord) : AssetSchedule :=
  let lines (category : AssetCategory) := records.filter (ScheduleRecord.isOf category)
  { realProperty := (lines .realProperty).map ScheduleRecord.securedAsset
    tangibleProperty := (lines .tangibleProperty).map ScheduleRecord.securedAsset
    intangibleProperty := (lines .intangibleProperty).map ScheduleRecord.asset
    outsideRealProperty := (lines .outsideRealProperty).map ScheduleRecord.asset
    outsidePersonalProperty := (lines .outsidePersonalProperty).map ScheduleRecord.asset }

end AssetSchedule

/-! ## Lines of an intake interview -/

namespace Intake

/-- The first text under one of several names, trimmed. -/
def textUnder? (names : List String) (item : Json) : Option String :=
  (names.findSome? (fun name => (item.get? name).bind Json.string?)).map Text.trim

/-- What stands under the first of several names that is there, unless it is
null. -/
def valueUnder? (names : List String) (item : Json) : Option Json :=
  (names.findSome? (fun name => item.get? name)).filter (fun j => !j.isNull)

/-- The schedule line of an item of a category. -/
def line (category : AssetCategory) (item : Json) : ScheduleRecord :=
  let debt := item.get? "secured_debt"
  let creditor := (debt.bind (Json.get? "creditor")).bind Json.string?
  let amount := debt.bind (Json.get? "amount")
  { category := category.key
    description := (textUnder? ["description", "name", "label"] item).getD ""
    value := valueUnder? ["value", "market_value", "amount"] item
    securedCreditor :=
      creditor.orElse (fun _ => textUnder? ["secured_creditor", "mortgage_holder"] item)
    securedAmount :=
      amount.orElse (fun _ => valueUnder? ["secured_amount", "mortgage_amount"] item) }

/-- The items of a category in the answers of an interview. -/
def items (payload : Json) (category : AssetCategory) : List Json :=
  (((payload.get? "assets").bind (Json.get? category.key)).bind Json.array?).getD []

/-- The schedule lines in the answers of an interview, category by category. -/
def lines (payload : Json) : List ScheduleRecord :=
  AssetCategory.all.flatMap (fun category => (items payload category).map (line category))

end Intake

/-! ## Lists entered by hand -/

/-- A debt entered by hand. -/
structure OverrideDebt where
  /-- The creditor. -/
  creditor : String := ""
  /-- The amount in dollars. -/
  amount : Option Json := none

/-- A line entered by hand. -/
structure OverrideLine where
  /-- What it is. -/
  description : String := ""
  /-- What it is worth, in dollars. -/
  value : Option Json := none
  /-- The debt it secures. -/
  securedDebt : Option OverrideDebt := none

/-- Decodes a debt entered by hand. -/
def OverrideDebt.decode : Json.Decoder OverrideDebt := Json.decodeRecord {}
  [.string "creditor" (fun r x => { r with creditor := x }),
    .optional "amount" Json.decodeAny (fun r x => { r with amount := x })]

namespace OverrideLine

/-- Decodes a line entered by hand. -/
def decode : Json.Decoder OverrideLine := Json.decodeRecord {}
  [.string "description" (fun r x => { r with description := x }),
    .optional "value" Json.decodeAny (fun r x => { r with value := x }),
    .optional "secured_debt" OverrideDebt.decode (fun r x => { r with securedDebt := x })]

/-- The amount of a field; zero when it is missing, and none when it is negative
or malformed. -/
def amount? (value : Option Json) : Option Money :=
  match value with
  | none | some .null => some Money.zero
  | some j => j.moneyAmount?

/-- The asset of a line. -/
def asset? (l : OverrideLine) : Option Asset := do
  some ⟨Text.trim l.description, ← amount? l.value⟩

/-- The debt of a debt entered by hand. -/
def debt? (d : OverrideDebt) : Option SecuredDebt := do
  some ⟨Text.trim d.creditor, ← amount? d.amount⟩

/-- The asset of a line with the debt it secures. -/
def securedAsset? (l : OverrideLine) : Option SecuredAsset := do
  let debt ← match l.securedDebt with
    | some d => (debt? d).map some
    | none => some none
  some ⟨Text.trim l.description, ← amount? l.value, debt⟩

/-- The assets of a list entered by hand. -/
def assets? (value : Json) : Option (List Asset) := do
  (← Json.decodeValue? (Json.decodeList decode) value).mapM asset?

/-- The assets of a list entered by hand, with their debts. -/
def securedAssets? (value : Json) : Option (List SecuredAsset) := do
  (← Json.decodeValue? (Json.decodeList decode) value).mapM securedAsset?

end OverrideLine

end EstateFiling
