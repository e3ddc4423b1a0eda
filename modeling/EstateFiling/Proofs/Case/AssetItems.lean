import EstateFiling.Proofs.Case.EnteredAssets
import EstateFiling.Proofs.Case.Placing
import EstateFiling.Proofs.Json.Members

/-!
# Items of assets, by hand and in an interview

An item of a list of assets is read in two ways.  A list entered by hand is decoded, and one
unsuitable member makes the whole list void.  In an interview each fact about an asset is
looked for under several names, and what cannot be used is passed over.

An item that has members of a line only, of the sorts they should have, is decoded
(`Json.IsAssetItem.decodes`), and there is nothing under the other names to be found
(`Json.IsAssetItem.line_eq`).  Then both readings make the same asset
(`Json.IsAssetItem.item_line`), and a list of such items makes the same collection either way
(`CaseBundle.entered_eq_answered`).
-/

namespace EstateFiling

open Json

/-! ## Items -/

namespace Json

/-- The members of a debt. -/
inductive DebtMember : String → Json → Prop where
  | creditor (s : String) : DebtMember "creditor" (.string s)
  | amount {j : Json} (states : StatesAmount (some j)) : DebtMember "amount" j

/-- An object with members of a debt that names a creditor or a positive amount. -/
structure IsDebt (j : Json) : Prop where
  /-- All members are those of a debt. -/
  members : HasMembers DebtMember j
  /-- The debt is stated. -/
  states : (∃ s, j.get? "creditor" = some (.string s) ∧ Text.isBlankText s = false)
    ∨ ∃ m, (j.get? "amount").bind moneyAmount? = some m ∧ 0 < m.cents

/-- The members of an asset. -/
inductive AssetMember : String → Json → Prop where
  | description (s : String) : AssetMember "description" (.string s)
  | value {j : Json} (states : StatesAmount (some j)) : AssetMember "value" j
  | noDebt : AssetMember "secured_debt" .null
  | debt {j : Json} (debt : IsDebt j) : AssetMember "secured_debt" j

/-- An object with members of an asset. -/
def IsAssetItem (j : Json) : Prop := HasMembers AssetMember j

/-! ### What stands under a name -/

namespace DebtMember

variable {name : String} {j : Json}

theorem known (h : DebtMember name j) : name ∈ ["creditor", "amount"] := by
  cases h <;> decide

theorem exists_string (h : DebtMember name j) (named : name = "creditor") :
    ∃ s, j = .string s := by
  cases h with
  | creditor s => exact ⟨s, rfl⟩
  | amount => exact absurd named (by decide)

theorem statesAmount (h : DebtMember name j) (named : name = "amount") :
    StatesAmount (some j) := by
  cases h with
  | creditor => exact absurd named (by decide)
  | amount states => exact states

end DebtMember

namespace AssetMember

variable {name : String} {j : Json}

theorem known (h : AssetMember name j) : name ∈ ["description", "value", "secured_debt"] := by
  cases h <;> decide

theorem exists_string (h : AssetMember name j) (named : name = "description") :
    ∃ s, j = .string s := by
  cases h with
  | description s => exact ⟨s, rfl⟩
  | _ => exact absurd named (by decide)

theorem statesAmount (h : AssetMember name j) (named : name = "value") :
    StatesAmount (some j) := by
  cases h with
  | value states => exact states
  | _ => exact absurd named (by decide)

theorem null_or_isDebt (h : AssetMember name j) (named : name = "secured_debt") :
    j = .null ∨ IsDebt j := by
  cases h with
  | noDebt => exact Or.inl rfl
  | debt debt => exact Or.inr debt
  | _ => exact absurd named (by decide)

end AssetMember

namespace StatesAmount

variable {x : Option Json}

/-- Null and amounts have no members to be put in order. -/
theorem isCanonical (h : StatesAmount x) : ∀ j ∈ x, j.IsCanonical := by
  intro j given
  rcases h j given with rfl | ⟨m, found⟩
  · rfl
  · cases j with
    | number | string => rfl
    | _ => cases found

theorem of_amount {j : Json} (m : Money) (found : j.moneyAmount? = some m) :
    StatesAmount (some j) := by
  intro j' given
  obtain rfl := Option.some.inj given
  exact Or.inr ⟨m, found⟩

theorem withoutNull (h : StatesAmount x) : StatesAmount (withoutNull x) :=
  fun j given => h j (Option.filter_eq_some_iff.mp given).1

end StatesAmount

end Json

/-! ## Decoded by hand -/

namespace OverrideLine

/-- The debt that an item gives. -/
def debtOf (d : Json) : OverrideDebt :=
  ⟨((d.get? "creditor").bind string?).getD "", withoutNull (d.get? "amount")⟩

/-- The line that an item gives. -/
def ofItem (j : Json) : OverrideLine :=
  ⟨((j.get? "description").bind string?).getD "", withoutNull (j.get? "value"),
    (withoutNull (j.get? "secured_debt")).map debtOf⟩

end OverrideLine

namespace Json

open OverrideLine (debtOf ofItem)

variable {j : Json}

/-- A text that may be given is decoded to what it says. -/
theorem Fills.lookedString {α : Type} {fields : List (Field α)} {ms : List (String × Json)}
    {name : String} {put : α → String → α} {x : Option Json} {r r' : α}
    (text : ∀ j ∈ x, ∃ s, j = .string s) (missing : put r "" = r)
    (rest : Fills .asWritten fields ms (put r ((x.bind string?).getD "")) r') :
    Fills .asWritten (Field.string name put :: fields)
      ((x.map (Prod.mk name)).toList ++ ms) r r' := by
  refine .looked (fun j given => ?_) (fun absent => ?_) rest
  · obtain ⟨s, rfl⟩ := text j given
    rw [given]
    exact .string s
  · rw [absent]
    exact missing

/-- An amount that may be given is decoded as it is, unless it is null. -/
theorem Fills.lookedAmount {α : Type} {fields : List (Field α)} {ms : List (String × Json)}
    {name : String} {put : α → Option Json → α} {x : Option Json} {r r' : α}
    (states : StatesAmount x) (missing : put r none = r)
    (rest : Fills .asWritten fields ms (put r (withoutNull x)) r') :
    Fills .asWritten (Field.optional name decodeAny put :: fields)
      ((x.map (Prod.mk name)).toList ++ ms) r r' := by
  refine .looked (fun j given => ?_) (fun absent => ?_) rest
  · obtain rfl := given
    exact .optionalAny states.isCanonical
  · rw [absent]
    exact missing

namespace IsDebt

theorem isNull_eq_false (h : IsDebt j) : j.isNull = false := by
  obtain ⟨ms, rfl, -⟩ := h.members
  rfl

theorem statesAmount (h : IsDebt j) : StatesAmount (j.get? "amount") :=
  fun _ given => (h.members.member given).statesAmount rfl _ rfl

theorem decodes (h : IsDebt j) : Decodes .asWritten OverrideDebt.decode j (debtOf j) := by
  refine h.members.decodeRecord_eq (by repeat' constructor) (fun _ _ => DebtMember.known) ?_
  refine .lookedString (fun _ given => (h.members.member given).exists_string rfl) rfl ?_
  refine .lookedAmount h.statesAmount rfl ?_
  exact .nil _

theorem securedDebt_ofItem {item : Json} (h : IsDebt j)
    (given : item.get? "secured_debt" = some j) : (ofItem item).securedDebt = some (debtOf j) := by
  have stated : withoutNull (some j) = some j := by
    rw [withoutNull, Option.filter_some, h.isNull_eq_false]
    rfl
  rw [ofItem, given, stated, Option.map_some]

end IsDebt

namespace IsAssetItem

theorem statesValue (h : IsAssetItem j) : StatesAmount (j.get? "value") :=
  fun _ given => (h.member given).statesAmount rfl _ rfl

/-- An item has no debt, or one that is stated. -/
theorem noDebt_or_isDebt (h : IsAssetItem j) :
    ((ofItem j).securedDebt = none ∧ ∀ name, Intake.nested? name j = none)
    ∨ ∃ d, (ofItem j).securedDebt = some (debtOf d)
      ∧ (∀ name, Intake.nested? name j = d.get? name) ∧ IsDebt d := by
  unfold Intake.nested?
  cases given : j.get? "secured_debt" with
  | none => exact Or.inl ⟨by rw [ofItem, given]; rfl, fun _ => rfl⟩
  | some d =>
    rcases (h.member given).null_or_isDebt rfl with rfl | debt
    · exact Or.inl ⟨by rw [ofItem, given]; rfl, fun _ => rfl⟩
    · exact Or.inr ⟨d, debt.securedDebt_ofItem given, fun _ => rfl, debt⟩

theorem decodes (h : IsAssetItem j) : Decodes .asWritten OverrideLine.decode j (ofItem j) := by
  have debt : ∀ d ∈ j.get? "secured_debt",
      Decodes .asWritten (decodeOption OverrideDebt.decode) d (ofItem j).securedDebt := by
    intro d given
    rcases (h.member given).null_or_isDebt rfl with rfl | debt
    · rw [ofItem, given]
      exact .scalar rfl rfl rfl
    · rw [debt.securedDebt_ofItem given]
      exact debt.decodes.present debt.isNull_eq_false
  refine h.decodeRecord_eq (by repeat' constructor) (fun _ _ => AssetMember.known) ?_
  refine .lookedString (fun _ given => (h.member given).exists_string rfl) rfl ?_
  refine .lookedAmount h.statesValue rfl ?_
  refine .looked debt (fun (absent : j.get? "secured_debt" = none) => ?_) (.nil _)
  rw [ofItem, absent]
  rfl

theorem lines?_eq {items : List Json} (plain : ∀ j ∈ items, IsAssetItem j) :
    OverrideLine.lines? (.array items) = some (items.map ofItem) := by
  have read : Decodes .asWritten (decodeList OverrideLine.decode) (.array (items.map id))
      (items.map ofItem) := .list_map fun j hj => (plain j hj).decodes
  rw [List.map_id] at read
  exact read.decodeValue?

theorem usable (h : IsAssetItem j) (c : AssetCategory) : (ofItem j).Usable c where
  value := h.statesValue.withoutNull
  debt _ d given := by
    rcases h.noDebt_or_isDebt with ⟨noDebt, -⟩ | ⟨d', stated, -, debt⟩
    · rw [noDebt] at given
      cases given
    · rw [stated] at given
      obtain rfl := Option.some.inj given
      exact debt.statesAmount.withoutNull

/-! ## Looked up in an interview -/

/-- There is nothing under a name that is none of an asset. -/
theorem get?_eq_none (h : IsAssetItem j) {name : String}
    (foreign : name ∉ ["description", "value", "secured_debt"]) : j.get? name = none :=
  HasMembers.get?_eq_none h fun _ member => foreign member.known

/-- What an interview finds of an item stands under the names of a line. -/
theorem line_eq (h : IsAssetItem j) (c : AssetCategory) :
    Intake.line c j =
      { category := c.key
        description := Text.trim (ofItem j).description
        value := (ofItem j).value
        securedCreditor := (Intake.nested? "creditor" j).bind string?
        securedAmount := Intake.nested? "amount" j } := by
  have absent (name : String) (foreign : name ∉ ["description", "value", "secured_debt"]) :
      j.get? name = none := h.get?_eq_none foreign
  have description : (Intake.textUnder? ["description", "name", "label"] j).getD ""
      = Text.trim (ofItem j).description := by
    simp only [Intake.textUnder?, List.findSome?_cons, List.findSome?_nil,
      absent "name" (by decide), absent "label" (by decide), Option.bind_none, ofItem]
    cases (j.get? "description").bind string? <;> rfl
  have value : Intake.valueUnder? ["value", "market_value", "amount"] j = (ofItem j).value := by
    simp only [Intake.valueUnder?, List.findSome?_cons, List.findSome?_nil,
      absent "market_value" (by decide), absent "amount" (by decide), ofItem]
    cases j.get? "value" <;> rfl
  have creditor : Intake.textUnder? ["secured_creditor", "mortgage_holder"] j = none := by
    simp only [Intake.textUnder?, List.findSome?_cons, List.findSome?_nil,
      absent "secured_creditor" (by decide), absent "mortgage_holder" (by decide), Option.bind_none,
      Option.map_none]
  have amount : Intake.valueUnder? ["secured_amount", "mortgage_amount"] j = none := by
    simp only [Intake.valueUnder?, List.findSome?_cons, List.findSome?_nil,
      absent "secured_amount" (by decide), absent "mortgage_amount" (by decide), Option.filter_none]
  rw [Intake.line, description, value, creditor, amount]
  have keep {α : Type} (x : Option α) : x.orElse (fun _ => none) = x := by cases x <;> rfl
  simp only [keep, Intake.nested?]

theorem statesDebt_line {d : Json} (h : IsAssetItem j) (debt : IsDebt d)
    (nested : ∀ name, Intake.nested? name j = d.get? name) (c : AssetCategory) :
    (Intake.line c j).StatesDebt := by
  rw [h.line_eq c, nested, nested]
  rcases debt.states with ⟨s, creditor, stated⟩ | stated
  · refine Or.inl ?_
    rw [creditor]
    exact stated
  · exact Or.inr stated

/-- The debt that an interview makes up of its answers is the one that was decoded. -/
theorem securedDebt?_line (h : IsAssetItem j) (c : AssetCategory) :
    (Intake.line c j).securedDebt? = (ofItem j).securedDebt.map OverrideLine.debtItem := by
  rcases h.noDebt_or_isDebt with ⟨noDebt, nothing⟩ | ⟨d, stated, nested, debt⟩
  · rw [h.line_eq c, noDebt, nothing, nothing]
    rfl
  · rw [ScheduleRecord.securedDebt?_of_statesDebt (h.statesDebt_line debt nested c), stated,
      h.line_eq c, nested, nested, Option.map_some, OverrideLine.debtItem]
    exact congrArg some (congrArg _ (CaseBundle.amount_withoutNull _).symm)

theorem item_line (h : IsAssetItem j) (c : AssetCategory) :
    (Intake.line c j).item c = (ofItem j).item c := by
  by_cases debts : c ∈ AssetCategory.withDebts
  · rw [ScheduleRecord.item, if_pos debts, ScheduleRecord.securedAsset, h.securedDebt?_line c,
      h.line_eq c, OverrideLine.item, if_pos debts, Text.trim_trim]
  · rw [ScheduleRecord.item, if_neg debts, h.line_eq c, OverrideLine.item, if_neg debts]
    simp only [ScheduleRecord.asset, Asset.unsecured, Text.trim_trim]

end IsAssetItem

end Json

/-! ## Cases -/

namespace CaseBundle

open OverrideLine (item ofItem)

variable {b : CaseBundle} {c : AssetCategory} {items : List Json}

theorem items_of_entered (plain : ∀ j ∈ items, IsAssetItem j)
    (entered : b.overrides.get? c.entryKey = some (.array items)) :
    b.assets.items c = items.map fun j => (ofItem j).item c := by
  have read : OverrideLine.items? c (.array items) = some ((items.map ofItem).map (item c)) := by
    refine (OverrideLine.items?_eq_some_iff c _ _).mpr ⟨_, IsAssetItem.lines?_eq plain, ?_, rfl⟩
    exact List.forall_mem_map.mpr fun j hj => (plain j hj).usable c
  rw [items_assets, entered, Option.bind_some, read, Option.getD_some, List.map_map]
  rfl

theorem items_of_answered (plain : ∀ j ∈ items, IsAssetItem j) {payload : Json}
    (unscheduled : b.schedules = []) (notEntered : b.overrides.get? c.entryKey = none)
    (interview : b.payload? = some payload)
    (answered : (payload.get? "assets").bind (Json.get? c.key) = some (.array items)) :
    b.assets.items c = items.map fun j => (ofItem j).item c := by
  have lines : b.interviewLines = Intake.lines payload := by rw [interviewLines, interview]; rfl
  have answers : Intake.items payload c = items := by rw [Intake.items, answered]; rfl
  rw [items_assets, notEntered, Option.bind_none, Option.getD_none, recordedAssets_eq,
    if_pos unscheduled, lines, AssetSchedule.items_ofRecords, Intake.filter_isOf_lines,
    answers, List.map_map]
  exact List.map_congr_left fun j hj => (plain j hj).item_line c

/-- A list of items means the same entered by hand and answered in an interview, where no
schedule is on record: each item makes one asset, and the collections are the same. -/
theorem entered_eq_answered {c : AssetCategory} {items : List Json}
    (plain : ∀ j ∈ items, IsAssetItem j) {b b' : CaseBundle}
    (entered : b.overrides.get? c.entryKey = some (.array items))
    (notEntered : b'.overrides.get? c.entryKey = none) (unscheduled : b'.schedules = [])
    {payload : Json} (interview : b'.payload? = some payload)
    (answered : (payload.get? "assets").bind (Json.get? c.key) = some (.array items))
    (settings settings' : DocumentSettings) :
    (b.build settings).assets.items c = (b'.build settings').assets.items c
    ∧ (b.build settings).assets.items c = items.map fun j => (ofItem j).item c := by
  have one := items_of_entered plain entered
  have other := items_of_answered plain unscheduled notEntered interview answered
  exact ⟨one.trans other.symm, one⟩

/-- A house with a mortgage. -/
def mortgagedHouse : Json :=
  .object [("description", .string "House"), ("value", .nat 300000),
    ("secured_debt", .object [("creditor", .string "Bank"), ("amount", .string "1,000")])]

theorem isAssetItem_mortgagedHouse : IsAssetItem mortgagedHouse := by
  have value : StatesAmount (some (.nat 300000)) :=
    .of_amount ⟨30000000, by decide, by decide⟩ (by decide)
  have amount : StatesAmount (some (.string "1,000")) :=
    .of_amount ⟨100000, by decide, by decide⟩ (by decide)
  have members : HasMembers DebtMember
      (.object [("creditor", .string "Bank"), ("amount", .string "1,000")]) := by
    refine ⟨_, rfl, by decide, List.forall_mem_cons.mpr ⟨.creditor _, ?_⟩⟩
    exact List.forall_mem_singleton.mpr (.amount amount)
  have debt : IsDebt (.object [("creditor", .string "Bank"), ("amount", .string "1,000")]) :=
    ⟨members, Or.inl ⟨"Bank", rfl, by decide⟩⟩
  refine ⟨_, rfl, by decide, List.forall_mem_cons.mpr ⟨.description _, ?_⟩⟩
  exact List.forall_mem_cons.mpr ⟨.value value, List.forall_mem_singleton.mpr (.debt debt)⟩

/-- A case with a list of houses that was entered by hand. -/
def housesEntered (houses : List Json) : CaseBundle :=
  { overrides := ⟨[("assets.real_property", .array houses)]⟩ }

/-- A case with a list of houses in its interview. -/
def housesAnswered (houses : List Json) : CaseBundle :=
  { intake := some
      { payload := .object [("assets", .object [("real_property", .array houses)])] } }

theorem mortgagedHouse_entered_eq_answered :
    ((housesEntered [mortgagedHouse]).build {}).assets.items .realProperty
        = ((housesAnswered [mortgagedHouse]).build {}).assets.items .realProperty
    ∧ ((housesEntered [mortgagedHouse]).build {}).assets.items .realProperty
        = [mortgagedHouse].map fun j => (ofItem j).item .realProperty :=
  entered_eq_answered (List.forall_mem_singleton.mpr isAssetItem_mortgagedHouse)
    rfl rfl rfl rfl rfl {} {}

end CaseBundle

end EstateFiling
