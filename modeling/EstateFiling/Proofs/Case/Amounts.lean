import EstateFiling.Case.Bundle
import EstateFiling.Proofs.Money.Reading

/-!
# Amounts of an estate

The amounts of an estate are what its assets are worth, the debts they secure, and
what the creditors are owed.  None of them is below zero, with one exception
(`CaseBundle.build_amounts_nonneg_iff`).

Amounts come in by the loose reading, which finds none below zero.  A line of a
schedule or of an interview takes zero for what cannot be read, and a list of
assets entered by hand is void if one of its amounts cannot be read.  The list of
creditors entered by hand is the exception.  It is decoded as the estate writes it,
cents with their sign, and nothing looks at the sign afterwards.
-/

namespace EstateFiling

/-! ## The amounts -/

/-- The amounts of an asset: what it is worth, and the debt it secures. -/
def SecuredAsset.amounts (a : SecuredAsset) : List Money :=
  a.value :: (a.securedDebt.map SecuredDebt.amount).toList

/-- The amounts of an asset with a value only. -/
def Asset.amounts (a : Asset) : List Money := [a.value]

/-- The amounts of a schedule. -/
def AssetSchedule.amounts (s : AssetSchedule) : List Money :=
  s.realProperty.flatMap SecuredAsset.amounts ++ s.tangibleProperty.flatMap SecuredAsset.amounts
    ++ s.intangibleProperty.flatMap Asset.amounts ++ s.outsideRealProperty.flatMap Asset.amounts
    ++ s.outsidePersonalProperty.flatMap Asset.amounts

/-- The amounts of an estate. -/
def EstateModel.amounts (m : EstateModel) : List Money :=
  m.assets.amounts ++ m.creditors.filterMap Creditor.amount

/-- No amount is below zero. -/
abbrev NonNegative (amounts : List Money) : Prop := ∀ m ∈ amounts, 0 ≤ m.cents

theorem SecuredAsset.nonNegative_amounts {a : SecuredAsset} (value : 0 ≤ a.value.cents)
    (debt : ∀ d, a.securedDebt = some d → 0 ≤ d.amount.cents) : NonNegative a.amounts := by
  intro m hm
  rcases List.mem_cons.mp hm with rfl | hm
  · exact value
  · obtain ⟨d, hd, rfl⟩ := Option.map_eq_some_iff.mp (Option.mem_toList.mp hm)
    exact debt d hd

theorem Asset.nonNegative_amounts {a : Asset} (value : 0 ≤ a.value.cents) :
    NonNegative a.amounts := by
  intro m hm
  obtain rfl := List.mem_singleton.mp hm
  exact value

theorem AssetSchedule.nonNegative_amounts_iff (s : AssetSchedule) :
    NonNegative s.amounts ↔
      (∀ a ∈ s.realProperty, NonNegative a.amounts)
      ∧ (∀ a ∈ s.tangibleProperty, NonNegative a.amounts)
      ∧ (∀ a ∈ s.intangibleProperty, NonNegative a.amounts)
      ∧ (∀ a ∈ s.outsideRealProperty, NonNegative a.amounts)
      ∧ ∀ a ∈ s.outsidePersonalProperty, NonNegative a.amounts := by
  simp only [NonNegative, amounts, List.forall_mem_append, List.forall_mem_flatMap, and_assoc]

/-! ## Lines of schedules and interviews -/

namespace ScheduleRecord

theorem amount_nonneg (value : Option Json) : 0 ≤ (amount value).cents := by
  unfold amount
  cases read : value.bind Json.moneyAmount? with
  | none => exact Int.le_refl 0
  | some m =>
    obtain ⟨j, -, hj⟩ := Option.bind_eq_some_iff.mp read
    exact Json.moneyAmount?_nonneg hj

theorem nonNegative_asset (r : ScheduleRecord) : NonNegative r.asset.amounts :=
  Asset.nonNegative_amounts (amount_nonneg r.value)

theorem nonNegative_securedAsset (r : ScheduleRecord) : NonNegative r.securedAsset.amounts := by
  refine SecuredAsset.nonNegative_amounts (amount_nonneg r.value) fun d hd => ?_
  simp only [securedAsset, securedDebt?] at hd
  split at hd
  · cases hd
    exact amount_nonneg r.securedAmount
  · cases hd

end ScheduleRecord

/-- A schedule of records has no amount below zero. -/
theorem AssetSchedule.nonNegative_ofRecords (records : List ScheduleRecord) :
    NonNegative (ofRecords records).amounts := by
  rw [nonNegative_amounts_iff]
  simp only [ofRecords, List.forall_mem_map]
  exact ⟨fun r _ => r.nonNegative_securedAsset, fun r _ => r.nonNegative_securedAsset,
    fun r _ => r.nonNegative_asset, fun r _ => r.nonNegative_asset, fun r _ => r.nonNegative_asset⟩

/-! ## Lists of assets entered by hand -/

/-- What holds of everything a reading finds holds of the items of a list that is
read whole. -/
theorem forall_mem_of_mapM {α β : Type} {read : α → Option β} {P : β → Prop}
    (sound : ∀ a b, read a = some b → P b) {xs : List α} {ys : List β}
    (h : xs.mapM read = some ys) : ∀ y ∈ ys, P y := by
  induction xs generalizing ys with
  | nil =>
    cases h
    exact List.forall_mem_nil P
  | cons x xs ih =>
    rw [List.mapM_cons] at h
    obtain ⟨y, hy, h⟩ := Option.bind_eq_some_iff.mp h
    obtain ⟨rest, hrest, h⟩ := Option.bind_eq_some_iff.mp h
    cases h
    exact List.forall_mem_cons.mpr ⟨sound x y hy, ih hrest⟩

namespace OverrideLine

theorem amount?_nonneg {value : Option Json} {m : Money} (h : amount? value = some m) :
    0 ≤ m.cents := by
  unfold amount? at h
  split at h
  · cases h
    exact Int.le_refl 0
  · cases h
    exact Int.le_refl 0
  · exact Json.moneyAmount?_nonneg h

theorem debt?_nonneg {d : OverrideDebt} {debt : SecuredDebt} (h : debt? d = some debt) :
    0 ≤ debt.amount.cents := by
  obtain ⟨m, hm, h⟩ := Option.bind_eq_some_iff.mp h
  cases h
  exact amount?_nonneg hm

theorem nonNegative_asset? {l : OverrideLine} {a : Asset} (h : asset? l = some a) :
    NonNegative a.amounts := by
  obtain ⟨m, hm, h⟩ := Option.bind_eq_some_iff.mp h
  cases h
  exact Asset.nonNegative_amounts (amount?_nonneg hm)

theorem nonNegative_securedAsset? {l : OverrideLine} {a : SecuredAsset}
    (h : securedAsset? l = some a) : NonNegative a.amounts := by
  unfold securedAsset? at h
  split at h
  · -- The line has a debt, which is read before the value.
    obtain ⟨debt, hdebt, h⟩ := Option.bind_eq_some_iff.mp h
    obtain ⟨m, hm, h⟩ := Option.bind_eq_some_iff.mp h
    obtain ⟨d, hd, rfl⟩ := Option.map_eq_some_iff.mp hdebt
    cases h
    refine SecuredAsset.nonNegative_amounts (amount?_nonneg hm) fun d' hd' => ?_
    cases hd'
    exact debt?_nonneg hd
  · change Option.bind (amount? l.value) _ = some a at h
    obtain ⟨m, hm, h⟩ := Option.bind_eq_some_iff.mp h
    cases h
    exact SecuredAsset.nonNegative_amounts (amount?_nonneg hm) fun _ hd => nomatch hd

theorem nonNegative_assets? {value : Json} {as : List Asset} (h : assets? value = some as) :
    ∀ a ∈ as, NonNegative a.amounts := by
  obtain ⟨ls, -, h⟩ := Option.bind_eq_some_iff.mp h
  exact forall_mem_of_mapM (fun _ _ => nonNegative_asset?) h

theorem nonNegative_securedAssets? {value : Json} {as : List SecuredAsset}
    (h : securedAssets? value = some as) : ∀ a ∈ as, NonNegative a.amounts := by
  obtain ⟨ls, -, h⟩ := Option.bind_eq_some_iff.mp h
  exact forall_mem_of_mapM (fun _ _ => nonNegative_securedAsset?) h

end OverrideLine

/-- What holds of everything that can be read from an entry, and of what is on
record, holds of the one that counts. -/
theorem getD_bind_of {α : Type} {P : α → Prop} {read : Json → Option α} {entry : Option Json}
    {recorded : α} (sound : ∀ j a, read j = some a → P a) (onRecord : P recorded) :
    P ((entry.bind read).getD recorded) := by
  cases h : entry.bind read with
  | none => exact onRecord
  | some a =>
    obtain ⟨j, -, hj⟩ := Option.bind_eq_some_iff.mp h
    exact sound j a hj

/-! ## The estate -/

namespace CaseBundle

theorem nonNegative_recordedAssets (b : CaseBundle) : NonNegative b.recordedAssets.amounts := by
  unfold recordedAssets
  split
  · exact AssetSchedule.nonNegative_ofRecords b.schedules
  · split
    · exact AssetSchedule.nonNegative_ofRecords _
    · exact List.forall_mem_nil _

/-- The assets have no amount below zero. -/
theorem nonNegative_assets (b : CaseBundle) : NonNegative b.assets.amounts := by
  have recorded := (AssetSchedule.nonNegative_amounts_iff _).mp b.nonNegative_recordedAssets
  obtain ⟨real, tangible, intangible, outsideReal, outsidePersonal⟩ := recorded
  have secured : ∀ j as, OverrideLine.securedAssets? j = some as →
      ∀ a ∈ as, NonNegative a.amounts := fun _ _ => OverrideLine.nonNegative_securedAssets?
  have plain : ∀ j as, OverrideLine.assets? j = some as →
      ∀ a ∈ as, NonNegative a.amounts := fun _ _ => OverrideLine.nonNegative_assets?
  rw [AssetSchedule.nonNegative_amounts_iff]
  exact ⟨getD_bind_of secured real, getD_bind_of secured tangible, getD_bind_of plain intangible,
    getD_bind_of plain outsideReal, getD_bind_of plain outsidePersonal⟩

/-- The creditors on record are owed no amount below zero. -/
theorem nonNegative_recordedCreditors (b : CaseBundle) :
    NonNegative ((b.case.creditors.filterMap creditor?).filterMap Creditor.amount) := by
  intro m hm
  obtain ⟨c, hc, hamount⟩ := List.mem_filterMap.mp hm
  obtain ⟨r, -, hr⟩ := List.mem_filterMap.mp hc
  obtain ⟨name, -, rfl⟩ := Option.map_eq_some_iff.mp hr
  obtain ⟨j, -, hj⟩ := Option.bind_eq_some_iff.mp hamount
  exact Json.moneyAmount?_nonneg hj

/-- The amounts of an estate.  Whatever the bundle, no asset is worth less than
zero and no asset secures a debt below zero.  No amount at all is below zero
exactly when none is in the list of creditors entered by hand, if there is one
that can be read. -/
theorem build_amounts_nonneg_iff (b : CaseBundle) (settings : DocumentSettings) :
    NonNegative (b.build settings).assets.amounts
    ∧ (NonNegative (b.build settings).amounts ↔
        ∀ cs, b.overrides.value? "creditors" (Json.decodeList Creditor.decode) = some cs →
          NonNegative (cs.filterMap Creditor.amount)) := by
  refine ⟨b.nonNegative_assets, ?_⟩
  have split : NonNegative (b.build settings).amounts ↔
      NonNegative b.assets.amounts ∧ NonNegative (b.creditors.filterMap Creditor.amount) :=
    List.forall_mem_append
  rw [split, and_iff_right b.nonNegative_assets]
  unfold creditors
  cases b.overrides.value? "creditors" (Json.decodeList Creditor.decode) with
  | none => exact iff_of_true b.nonNegative_recordedCreditors fun _ h => nomatch h
  | some entered =>
    constructor
    · intro h cs hcs
      cases hcs
      exact h
    · intro h
      exact h entered rfl

/-- A bundle whose only entry is a creditor owed a dollar less than nothing. -/
def owedLessThanNothing : CaseBundle :=
  { overrides := ManualOverrides.insert {} "creditors"
      (.array [.object [("name", .string "Bank"), ("amount", .int (-100))]]) }

theorem not_nonNegative_owedLessThanNothing :
    ¬ NonNegative (owedLessThanNothing.build {}).amounts := by
  decide

end CaseBundle

end EstateFiling
