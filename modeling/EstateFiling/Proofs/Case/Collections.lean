import EstateFiling.Proofs.Case.NullAnswers
import EstateFiling.Proofs.Case.Totals

/-!
# Collections of a schedule

A schedule has five collections, two whose items may carry a debt and three whose items
carry a value only.  `AssetSchedule.items` shows the collection of a category in one
form: an asset with a value only is an asset without a debt.  A schedule is determined by
its collections (`AssetSchedule.ext_items`).

In this form one law covers all five.  A collection of a case is what was entered for it by
hand, if that can be used, and the collection on record otherwise
(`CaseBundle.items_assets`).
-/

namespace EstateFiling

/-! ## One form for all assets -/

theorem Asset.unsecured_injective : Function.Injective unsecured := by
  rintro ⟨description, value⟩ ⟨description', value'⟩ same
  cases same
  rfl

namespace AssetSchedule

/-- Nothing of a schedule is outside its collections. -/
theorem ext_items {s t : AssetSchedule} (same : ∀ c, s.items c = t.items c) : s = t := by
  have plain := List.map_injective_iff.mpr Asset.unsecured_injective
  obtain ⟨real, tangible, intangible, outsideReal, outsidePersonal⟩ := s
  rw [mk.injEq]
  exact ⟨same .realProperty, same .tangibleProperty, plain (same .intangibleProperty),
    plain (same .outsideRealProperty), plain (same .outsidePersonalProperty)⟩

@[simp] theorem items_empty (c : AssetCategory) : items {} c = [] := by
  cases c <;> rfl

/-- Schedules are put together collection by collection. -/
theorem items_append (s t : AssetSchedule) (c : AssetCategory) :
    (s ++ t).items c = s.items c ++ t.items c := by
  cases c with
  | realProperty => rfl
  | tangibleProperty => rfl
  | intangibleProperty => exact List.map_append
  | outsideRealProperty => exact List.map_append
  | outsidePersonalProperty => exact List.map_append

end AssetSchedule

/-! ## Collections on record -/

/-- The asset that a line makes in a category. -/
def ScheduleRecord.item (c : AssetCategory) (r : ScheduleRecord) : SecuredAsset :=
  if c ∈ AssetCategory.withDebts then r.securedAsset else r.asset.unsecured

/-- The lines of a category make its collection. -/
theorem AssetSchedule.items_ofRecords (rs : List ScheduleRecord) (c : AssetCategory) :
    (ofRecords rs).items c
      = (rs.filter (ScheduleRecord.isOf c)).map (ScheduleRecord.item c) := by
  cases c with
  | realProperty => rfl
  | tangibleProperty => rfl
  | intangibleProperty => exact List.map_map
  | outsideRealProperty => exact List.map_map
  | outsidePersonalProperty => exact List.map_map

/-! ## Collections entered by hand -/

/-- The name under which a collection is entered. -/
def AssetCategory.entryKey (c : AssetCategory) : String := "assets." ++ c.key

theorem AssetCategory.entryKey_injective : Function.Injective entryKey := by
  intro c c' same
  cases c <;> cases c' <;> first | rfl | exact absurd same (by decide)

/-- The assets of a list entered for a category. -/
def OverrideLine.items? (c : AssetCategory) (value : Json) : Option (List SecuredAsset) :=
  if c ∈ AssetCategory.withDebts then securedAssets? value
  else (assets? value).map (List.map Asset.unsecured)

/-- A collection is what was entered for it, or what is on record. -/
theorem CaseBundle.items_assets (b : CaseBundle) (c : AssetCategory) :
    b.assets.items c
      = ((b.overrides.get? c.entryKey).bind (OverrideLine.items? c)).getD
          (b.recordedAssets.items c) := by
  have plain (entry : Option Json) (recorded : List Asset) :
      ((entry.bind OverrideLine.assets?).getD recorded).map Asset.unsecured
        = (entry.bind fun value => (OverrideLine.assets? value).map (List.map Asset.unsecured)).getD
            (recorded.map Asset.unsecured) := by
    cases entry with
    | none => rfl
    | some value => exact (Option.getD_map _ _ _).symm
  cases c with
  | realProperty => rfl
  | tangibleProperty => rfl
  | intangibleProperty => exact plain _ _
  | outsideRealProperty => exact plain _ _
  | outsidePersonalProperty => exact plain _ _

end EstateFiling
