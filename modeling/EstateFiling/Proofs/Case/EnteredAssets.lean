import EstateFiling.Proofs.Case.Builders
import EstateFiling.Proofs.Case.Collections

/-!
# Lists of assets entered by hand

A list entered for a collection is used whole or not at all.  It is used if it is a list of
lines and every amount that matters in the collection is absent, null or an amount
(`OverrideLine.Usable`); then the collection has one item for each line
(`OverrideLine.items?_eq_some_iff`).  Otherwise the collection is what it is without the
list, and in no case does the list touch another collection
(`CaseBundle.entered_assets_whole_or_void`).
-/

namespace EstateFiling

/-- A list is read whole exactly if each item can be read. -/
theorem mapM_eq_some_iff {α β : Type} {read : α → Option β} {Readable : α → Prop} {result : α → β}
    (reads : ∀ a b, read a = some b ↔ Readable a ∧ b = result a) {xs : List α} {ys : List β} :
    xs.mapM read = some ys ↔ (∀ x ∈ xs, Readable x) ∧ ys = xs.map result := by
  induction xs generalizing ys with
  | nil => simp [eq_comm]
  | cons x xs ih =>
    rw [List.mapM_cons]
    constructor
    · intro h
      obtain ⟨y, first, h⟩ := Option.bind_eq_some_iff.mp h
      obtain ⟨rest, others, h⟩ := Option.bind_eq_some_iff.mp h
      obtain rfl := Option.some.inj h
      obtain ⟨readable, rfl⟩ := (reads x y).mp first
      obtain ⟨all, rfl⟩ := ih.mp others
      exact ⟨List.forall_mem_cons.mpr ⟨readable, all⟩, rfl⟩
    · rintro ⟨readable, rfl⟩
      obtain ⟨first, others⟩ := List.forall_mem_cons.mp readable
      rw [(reads x _).mpr ⟨first, rfl⟩, ih.mpr ⟨others, rfl⟩]
      rfl

/-! ## Lines -/

/-- What is given for an amount is absent, null or an amount. -/
def Json.StatesAmount (given : Option Json) : Prop :=
  ∀ j ∈ given, j = .null ∨ ∃ m, j.moneyAmount? = some m

namespace OverrideLine

open ScheduleRecord (amount)

/-- The amounts of a line that matter in a category can be used. -/
structure Usable (c : AssetCategory) (l : OverrideLine) : Prop where
  /-- The value. -/
  value : Json.StatesAmount l.value
  /-- The amount of a debt, where the category has debts. -/
  debt : c ∈ AssetCategory.withDebts → ∀ d ∈ l.securedDebt, Json.StatesAmount d.amount

/-- The debt that a debt entered by hand stands for. -/
def debtItem (d : OverrideDebt) : SecuredDebt := ⟨Text.trim d.creditor, amount d.amount⟩

/-- The asset with a value only that a line stands for. -/
def plainItem (l : OverrideLine) : Asset := ⟨Text.trim l.description, amount l.value⟩

/-- The asset that a line stands for in a category. -/
def item (c : AssetCategory) (l : OverrideLine) : SecuredAsset where
  description := Text.trim l.description
  value := amount l.value
  securedDebt := if c ∈ AssetCategory.withDebts then l.securedDebt.map debtItem else none

theorem amount?_eq_some_iff (given : Option Json) (m : Money) :
    amount? given = some m ↔ Json.StatesAmount given ∧ m = amount given := by
  rcases given with _ | j
  · simp [amount?, Json.StatesAmount, amount, eq_comm]
  · by_cases null : j = .null
    · subst null
      simp [amount?, Json.StatesAmount, amount, Json.moneyAmount?, eq_comm]
    · have stated : amount? (some j) = j.moneyAmount? := by
        cases j with
        | null => exact absurd rfl null
        | _ => rfl
      rw [stated]
      cases found : j.moneyAmount? with
      | none => simp [Json.StatesAmount, null, found]
      | some n => simp [Json.StatesAmount, amount, found, eq_comm]

theorem map_amount?_eq_some_iff {α : Type} (make : Money → α) (given : Option Json) (a : α) :
    (amount? given).map make = some a ↔ Json.StatesAmount given ∧ a = make (amount given) := by
  simp only [Option.map_eq_some_iff, amount?_eq_some_iff]
  constructor
  · rintro ⟨m, ⟨states, rfl⟩, rfl⟩
    exact ⟨states, rfl⟩
  · rintro ⟨states, rfl⟩
    exact ⟨_, ⟨states, rfl⟩, rfl⟩

theorem asset?_eq_map (l : OverrideLine) :
    asset? l = (amount? l.value).map (Asset.mk (Text.trim l.description)) := by
  rw [Option.map_eq_bind]
  rfl

theorem debt?_eq_map (d : OverrideDebt) :
    debt? d = (amount? d.amount).map (SecuredDebt.mk (Text.trim d.creditor)) := by
  rw [Option.map_eq_bind]
  rfl

theorem securedAsset?_of_no_debt {l : OverrideLine} (h : l.securedDebt = none) :
    securedAsset? l =
      (amount? l.value).map fun m => ⟨Text.trim l.description, m, none⟩ := by
  rw [securedAsset?, h, Option.map_eq_bind]
  rfl

theorem securedAsset?_of_debt {l : OverrideLine} {d : OverrideDebt} (h : l.securedDebt = some d) :
    securedAsset? l = (debt? d).bind fun debt =>
      (amount? l.value).map fun m => ⟨Text.trim l.description, m, some debt⟩ := by
  rw [securedAsset?, h]
  simp only [Option.map_eq_bind]
  cases debt? d <;> rfl

/-- A line is read in a category with debts if its amounts can be used. -/
theorem securedAsset?_eq_some_iff {c : AssetCategory} (debts : c ∈ AssetCategory.withDebts)
    (l : OverrideLine) (a : SecuredAsset) :
    securedAsset? l = some a ↔ l.Usable c ∧ a = l.item c := by
  have usable : l.Usable c ↔
      (∀ d ∈ l.securedDebt, Json.StatesAmount d.amount) ∧ Json.StatesAmount l.value :=
    ⟨fun h => ⟨h.debt debts, h.value⟩, fun h => ⟨h.2, fun _ => h.1⟩⟩
  rw [usable, item, if_pos debts]
  cases owed : l.securedDebt with
  | none =>
    rw [securedAsset?_of_no_debt owed, map_amount?_eq_some_iff]
    simp
  | some d =>
    rw [securedAsset?_of_debt owed, debt?_eq_map, Option.bind_eq_some_iff]
    simp only [map_amount?_eq_some_iff, Option.mem_some_iff, forall_eq', Option.map_some]
    constructor
    · rintro ⟨debt, ⟨states, rfl⟩, value, rfl⟩
      exact ⟨⟨states, value⟩, rfl⟩
    · rintro ⟨⟨states, value⟩, rfl⟩
      exact ⟨_, ⟨states, rfl⟩, value, rfl⟩

/-- A line is read in another category if its value can be used. -/
theorem asset?_eq_some_iff {c : AssetCategory} (noDebts : c ∉ AssetCategory.withDebts)
    (l : OverrideLine) (a : Asset) :
    asset? l = some a ↔ l.Usable c ∧ a = l.plainItem := by
  have usable : l.Usable c ↔ Json.StatesAmount l.value :=
    ⟨Usable.value, fun h => ⟨h, fun debts => absurd debts noDebts⟩⟩
  rw [asset?_eq_map, map_amount?_eq_some_iff, usable, plainItem]

/-! ## Lists -/

/-- The lines of a list entered by hand. -/
def lines? (value : Json) : Option (List OverrideLine) :=
  Json.decodeValue? (Json.decodeList decode) value

/-- A list is used exactly if it is a list of lines with usable amounts, and then each line
makes one asset. -/
theorem items?_eq_some_iff (c : AssetCategory) (value : Json) (as : List SecuredAsset) :
    items? c value = some as ↔
      ∃ ls, lines? value = some ls ∧ (∀ l ∈ ls, l.Usable c) ∧ as = ls.map (item c) := by
  by_cases debts : c ∈ AssetCategory.withDebts
  · rw [items?, if_pos debts]
    refine Option.bind_eq_some_iff.trans (exists_congr fun ls => and_congr_right fun _ => ?_)
    exact mapM_eq_some_iff (securedAsset?_eq_some_iff debts)
  · have unsecured (ls : List OverrideLine) :
        (ls.map fun l => (⟨Text.trim l.description, amount l.value⟩ : Asset)).map Asset.unsecured
          = ls.map (item c) := by
      rw [List.map_map]
      refine List.map_congr_left fun l _ => ?_
      rw [item, if_neg debts]
      rfl
    have read (as : List Asset) : assets? value = some as ↔
        ∃ ls, lines? value = some ls ∧ (∀ l ∈ ls, l.Usable c) ∧ as = ls.map plainItem := by
      refine Option.bind_eq_some_iff.trans (exists_congr fun ls => and_congr_right fun _ => ?_)
      exact mapM_eq_some_iff (asset?_eq_some_iff debts)
    rw [items?, if_neg debts, Option.map_eq_some_iff]
    simp only [read]
    constructor
    · rintro ⟨_, ⟨ls, lines, usable, rfl⟩, rfl⟩
      exact ⟨ls, lines, usable, unsecured ls⟩
    · rintro ⟨ls, lines, usable, rfl⟩
      exact ⟨_, ⟨ls, lines, usable, rfl⟩, unsecured ls⟩

/-- A list with an amount that cannot be used, or what is no list of lines, is void. -/
theorem items?_eq_none {c : AssetCategory} {value : Json}
    (h : ¬ ∃ ls, lines? value = some ls ∧ ∀ l ∈ ls, l.Usable c) : items? c value = none := by
  refine Option.eq_none_iff_forall_ne_some.mpr fun as read => h ?_
  obtain ⟨ls, lines, usable, -⟩ := (items?_eq_some_iff c value as).mp read
  exact ⟨ls, lines, usable⟩

end OverrideLine

/-! ## Cases -/

namespace CaseBundle

open OverrideLine (Usable lines? items? item)

variable (b : CaseBundle) (c : AssetCategory) (value : Json)

/-- The bundle with a value entered for a collection. -/
def enterAssets : CaseBundle := b.withOverrides (b.overrides.insert c.entryKey value)

/-- The bundle with nothing entered for a collection. -/
def enterNoAssets : CaseBundle := b.withOverrides (b.overrides.erase c.entryKey)

/-- A value entered for a collection decides it, whatever else is known of the case. -/
def AssetsDecidedBy : Prop :=
  ∃ as, ∀ b : CaseBundle, (b.enterAssets c value).assets.items c = as

/-- Null is as good as nothing entered. -/
theorem bind_get?_enterAssets :
    ((b.enterAssets c value).overrides.get? c.entryKey).bind (items? c) = items? c value := by
  have entered := b.overrides.get?_insert_self c.entryKey value
  change ((b.overrides.insert c.entryKey value).get? c.entryKey).bind (items? c) = _
  rw [entered]
  cases value with
  | null =>
    have void : items? c .null = none :=
      OverrideLine.items?_eq_none fun ⟨_, lines, _⟩ => nomatch lines
    rw [void]
    rfl
  | _ => rfl

theorem items_enterAssets :
    (b.enterAssets c value).assets.items c
      = (items? c value).getD (b.recordedAssets.items c) := by
  rw [items_assets, bind_get?_enterAssets]
  rfl

theorem items_enterNoAssets :
    (b.enterNoAssets c).assets.items c = b.recordedAssets.items c := by
  have absent : (b.enterNoAssets c).overrides.get? c.entryKey = none :=
    b.overrides.get?_erase_self c.entryKey
  rw [items_assets, absent]
  rfl

/-- What is entered for a collection does not touch the others. -/
theorem items_enterAssets_of_ne {c' : AssetCategory} (other : c' ≠ c) :
    (b.enterAssets c value).assets.items c'
      = (b.enterNoAssets c).assets.items c' := by
  have differ : c'.entryKey ≠ c.entryKey := fun same =>
    other (AssetCategory.entryKey_injective same)
  have entries : (b.enterAssets c value).overrides.get? c'.entryKey
      = (b.enterNoAssets c).overrides.get? c'.entryKey :=
    (b.overrides.agreeOff_insert c.entryKey value _ differ).symm.trans
      (b.overrides.agreeOff_erase c.entryKey _ differ)
  rw [items_assets, items_assets, entries]
  rfl

theorem assets_enterAssets_of_void (void : items? c value = none) :
    (b.enterAssets c value).assets = (b.enterNoAssets c).assets := by
  refine AssetSchedule.ext_items fun c' => ?_
  by_cases same : c' = c
  · rw [same, items_enterAssets, items_enterNoAssets, void, Option.getD_none]
  · exact b.items_enterAssets_of_ne c value same

/-- A collection is decided exactly by a list of lines with usable amounts: otherwise it shows
what is on record, which is one thing in one case and another in the next. -/
theorem assetsDecidedBy_iff :
    AssetsDecidedBy c value ↔ ∃ ls, lines? value = some ls ∧ ∀ l ∈ ls, l.Usable c := by
  constructor
  · rintro ⟨as, decided⟩
    by_contra unusable
    have onRecord (b : CaseBundle) : b.recordedAssets.items c = as := by
      rw [← decided b, items_enterAssets, OverrideLine.items?_eq_none unusable,
        Option.getD_none]
    -- What is on record is empty in one case, and has an item in another.
    have empty : [] = as := (AssetSchedule.items_empty c).symm.trans (onRecord {})
    have one := onRecord { schedules := [{ category := c.key }] }
    have placed : ScheduleRecord.isOf c { category := c.key } = true :=
      decide_eq_true c.parse?_key
    change (AssetSchedule.ofRecords [{ category := c.key }]).items c = as at one
    rw [AssetSchedule.items_ofRecords, List.filter_cons_of_pos placed, ← empty] at one
    cases one
  · rintro ⟨ls, lines, usable⟩
    refine ⟨ls.map (item c), fun b => ?_⟩
    rw [items_enterAssets, (OverrideLine.items?_eq_some_iff c value _).mpr
      ⟨ls, lines, usable, rfl⟩, Option.getD_some]

/-- What is entered for a collection is used whole or not at all.  It decides the collection
exactly if it is a list of lines whose amounts, as far as they matter there, are absent, null
or amounts.  Then each line makes one asset, in order; otherwise the assets are what they are
with nothing entered.  The other collections are so in any case. -/
theorem entered_assets_whole_or_void (settings : DocumentSettings) :
    (AssetsDecidedBy c value ↔ ∃ ls, lines? value = some ls ∧ ∀ l ∈ ls, l.Usable c)
    ∧ (∀ ls, lines? value = some ls → (∀ l ∈ ls, l.Usable c) →
        ((b.enterAssets c value).build settings).assets.items c = ls.map (item c))
    ∧ ((¬ ∃ ls, lines? value = some ls ∧ ∀ l ∈ ls, l.Usable c) →
        ((b.enterAssets c value).build settings).assets.items c
          = ((b.enterNoAssets c).build settings).assets.items c)
    ∧ ∀ c' ≠ c, ((b.enterAssets c value).build settings).assets.items c'
        = ((b.enterNoAssets c).build settings).assets.items c' := by
  refine ⟨assetsDecidedBy_iff c value, ?whole, ?void, ?others⟩
  case whole =>
    intro ls lines usable
    have read := (OverrideLine.items?_eq_some_iff c value _).mpr ⟨ls, lines, usable, rfl⟩
    exact (b.items_enterAssets c value).trans (congrArg (Option.getD · _) read)
  case void =>
    intro unusable
    have same := b.assets_enterAssets_of_void c value (OverrideLine.items?_eq_none unusable)
    exact congrArg (AssetSchedule.items · c) same
  case others =>
    intro c' other
    exact b.items_enterAssets_of_ne c value other

end CaseBundle

end EstateFiling
