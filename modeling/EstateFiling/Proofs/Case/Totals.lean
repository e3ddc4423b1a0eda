import EstateFiling.Estate.Totals
import EstateFiling.Proofs.Case.Amounts
import EstateFiling.Proofs.Money.Sums

/-!
# Totals of an estate

The totals of a schedule are sums that stop at the largest amount.  Where no amount
is below zero they are exact up to that limit (`EstateTotals.exact_ofSchedule`)
and do not depend on the order of the items (`EstateTotals.ofSchedule_reordered`).
The assets of an estate that is built from a bundle are such a schedule, so both
hold of every estate that is built (`CaseBundle.build_totals_exact`).
-/

namespace EstateFiling

/-! ## Items by collection -/

/-- An asset with a value only, as one that secures no debt. -/
def Asset.unsecured (a : Asset) : SecuredAsset := ⟨a.description, a.value, none⟩

theorem SecuredAsset.nonneg_debt {a : SecuredAsset} {debt : SecuredDebt}
    (h : NonNegative a.amounts) (secures : a.securedDebt = some debt) :
    0 ≤ debt.amount.cents := by
  refine h debt.amount (List.mem_cons_of_mem _ ?_)
  rw [secures]
  exact List.mem_singleton_self _

/-- The items of a collection, in order. -/
def AssetSchedule.items (s : AssetSchedule) : AssetCategory → List SecuredAsset
  | .realProperty => s.realProperty
  | .tangibleProperty => s.tangibleProperty
  | .intangibleProperty => s.intangibleProperty.map Asset.unsecured
  | .outsideRealProperty => s.outsideRealProperty.map Asset.unsecured
  | .outsidePersonalProperty => s.outsidePersonalProperty.map Asset.unsecured

/-- What items are worth, in order. -/
def valuesOf (items : List SecuredAsset) : List Money := items.map SecuredAsset.value

/-- The debts that items secure, in order. -/
def debtsOf (items : List SecuredAsset) : List Money :=
  (items.filterMap SecuredAsset.securedDebt).map SecuredDebt.amount

/-- The total of a collection. -/
def EstateTotals.subtotal (t : EstateTotals) : AssetCategory → Money
  | .realProperty => t.real
  | .tangibleProperty => t.tangible
  | .intangibleProperty => t.intangible
  | .outsideRealProperty => t.outsideReal
  | .outsidePersonalProperty => t.outsidePersonal

theorem AssetCategory.mem_all (c : AssetCategory) : c ∈ all := by
  cases c <;> decide

namespace AssetSchedule

variable {s s' : AssetSchedule}

theorem nonNegative_item (h : NonNegative s.amounts) {c : AssetCategory} {a : SecuredAsset}
    (ha : a ∈ s.items c) : NonNegative a.amounts := by
  obtain ⟨real, tangible, intangible, outsideReal, outsidePersonal⟩ :=
    s.nonNegative_amounts_iff.mp h
  have plain : ∀ {as : List Asset}, (∀ a ∈ as, NonNegative a.amounts) →
      a ∈ as.map Asset.unsecured → NonNegative a.amounts := by
    intro as nonneg ha
    obtain ⟨asset, hasset, rfl⟩ := List.mem_map.mp ha
    exact nonneg asset hasset
  cases c with
  | realProperty => exact real a ha
  | tangibleProperty => exact tangible a ha
  | intangibleProperty => exact plain intangible ha
  | outsideRealProperty => exact plain outsideReal ha
  | outsidePersonalProperty => exact plain outsidePersonal ha

theorem nonNegative_valuesOf (h : NonNegative s.amounts) (c : AssetCategory) :
    NonNegative (valuesOf (s.items c)) :=
  List.forall_mem_map.mpr fun a ha => nonNegative_item h ha a.value List.mem_cons_self

theorem nonNegative_debtsOf (h : NonNegative s.amounts) (c : AssetCategory) :
    NonNegative (debtsOf (s.items c)) := by
  intro m hm
  obtain ⟨debt, hdebt, rfl⟩ := List.mem_map.mp hm
  obtain ⟨a, ha, hsecured⟩ := List.mem_filterMap.mp hdebt
  exact SecuredAsset.nonneg_debt (nonNegative_item h ha) hsecured

theorem nonNegative_allValues (h : NonNegative s.amounts) :
    NonNegative (AssetCategory.all.flatMap fun c => valuesOf (s.items c)) :=
  List.forall_mem_flatMap.mpr fun c _ => nonNegative_valuesOf h c

/-- The same items in each collection, in some order. -/
def Reordered (s s' : AssetSchedule) : Prop := ∀ c, (s.items c).Perm (s'.items c)

end AssetSchedule

/-! ## Totals of a schedule -/

namespace EstateTotals

variable {s s' : AssetSchedule}

theorem valuesOf_unsecured (as : List Asset) :
    valuesOf (as.map Asset.unsecured) = as.map Asset.value := by
  unfold valuesOf
  rw [List.map_map]
  rfl

theorem subtotal_ofSchedule (s : AssetSchedule) (c : AssetCategory) :
    (ofSchedule s).subtotal c = Money.sum (valuesOf (s.items c)) := by
  cases c with
  | realProperty => rfl
  | tangibleProperty => rfl
  | intangibleProperty => exact congrArg Money.sum (valuesOf_unsecured _).symm
  | outsideRealProperty => exact congrArg Money.sum (valuesOf_unsecured _).symm
  | outsidePersonalProperty => exact congrArg Money.sum (valuesOf_unsecured _).symm

theorem subtotal_eq_zero {c : AssetCategory} (empty : s.items c = []) :
    (ofSchedule s).subtotal c = Money.zero := by
  rw [subtotal_ofSchedule, empty]
  rfl

theorem gross_eq_sum_subtotals (s : AssetSchedule) :
    (ofSchedule s).gross = Money.sum (AssetCategory.all.map (ofSchedule s).subtotal) := rfl

/-- The gross value is the sum of all values, whatever the collection. -/
theorem gross_ofSchedule (h : NonNegative s.amounts) :
    (ofSchedule s).gross =
      Money.sum (AssetCategory.all.flatMap fun c => valuesOf (s.items c)) := by
  have all : ∀ ms ∈ AssetCategory.all.map fun c => valuesOf (s.items c), NonNegative ms :=
    List.forall_mem_map.mpr fun c _ => AssetSchedule.nonNegative_valuesOf h c
  rw [gross_eq_sum_subtotals, List.flatMap_def, ← Money.sum_map_sum all, List.map_map]
  exact congrArg Money.sum (List.map_congr_left fun c _ => subtotal_ofSchedule s c)

theorem subtotal_nonneg (h : NonNegative s.amounts) (c : AssetCategory) :
    0 ≤ ((ofSchedule s).subtotal c).cents := by
  rw [subtotal_ofSchedule]
  exact Money.sum_nonneg (AssetSchedule.nonNegative_valuesOf h c)

theorem gross_nonneg (h : NonNegative s.amounts) : 0 ≤ (ofSchedule s).gross.cents := by
  rw [gross_ofSchedule h]
  exact Money.sum_nonneg (AssetSchedule.nonNegative_allValues h)

theorem realSecured_nonneg (h : NonNegative s.amounts) :
    0 ≤ (ofSchedule s).realSecured.cents :=
  Money.sum_nonneg (AssetSchedule.nonNegative_debtsOf h .realProperty)

theorem tangibleSecured_nonneg (h : NonNegative s.amounts) :
    0 ≤ (ofSchedule s).tangibleSecured.cents :=
  Money.sum_nonneg (AssetSchedule.nonNegative_debtsOf h .tangibleProperty)

theorem securedTotal_nonneg (h : NonNegative s.amounts) :
    0 ≤ (ofSchedule s).securedTotal.cents := by
  show 0 ≤ ((ofSchedule s).realSecured + (ofSchedule s).tangibleSecured).cents
  exact Money.add_nonneg (realSecured_nonneg h) (tangibleSecured_nonneg h)

/-- The totals are exact sums, cut off at the largest amount, and the net value is
the exact difference. -/
structure Exact (t : EstateTotals) (s : AssetSchedule) : Prop where
  /-- The total of each collection is the sum of its values. -/
  subtotal : ∀ c, (t.subtotal c).cents =
    min (Money.exactSum (valuesOf (s.items c))) Money.maximum.cents
  /-- The debts secured by real property. -/
  realSecured : t.realSecured.cents =
    min (Money.exactSum (debtsOf s.realProperty)) Money.maximum.cents
  /-- The debts secured by tangible personal property. -/
  tangibleSecured : t.tangibleSecured.cents =
    min (Money.exactSum (debtsOf s.tangibleProperty)) Money.maximum.cents
  /-- The gross value is the sum of the values of all collections. -/
  gross : t.gross.cents =
    min (Money.exactSum (AssetCategory.all.flatMap fun c => valuesOf (s.items c)))
      Money.maximum.cents
  /-- The gross value is at least the total of each collection. -/
  subtotal_le_gross : ∀ c, (t.subtotal c).cents ≤ t.gross.cents
  /-- The net value is what is left of the gross value after the secured debts. -/
  net : t.net.cents = t.gross.cents - t.securedTotal.cents

theorem exact_ofSchedule (h : NonNegative s.amounts) : (ofSchedule s).Exact s where
  subtotal c := by
    rw [subtotal_ofSchedule]
    exact Money.cents_sum (AssetSchedule.nonNegative_valuesOf h c)
  realSecured := Money.cents_sum (AssetSchedule.nonNegative_debtsOf h .realProperty)
  tangibleSecured := Money.cents_sum (AssetSchedule.nonNegative_debtsOf h .tangibleProperty)
  gross := by
    rw [gross_ofSchedule h]
    exact Money.cents_sum (AssetSchedule.nonNegative_allValues h)
  subtotal_le_gross c := by
    rw [gross_eq_sum_subtotals]
    exact Money.le_sum (List.forall_mem_map.mpr fun c _ => subtotal_nonneg h c)
      (List.mem_map_of_mem c.mem_all)
  net := Money.cents_sub (gross_nonneg h) (securedTotal_nonneg h)

/-- Totals are known by the totals of the collections and of the debts. -/
theorem ofSchedule_congr (subtotals : ∀ c, (ofSchedule s).subtotal c = (ofSchedule s').subtotal c)
    (realSecured : (ofSchedule s).realSecured = (ofSchedule s').realSecured)
    (tangibleSecured : (ofSchedule s).tangibleSecured = (ofSchedule s').tangibleSecured) :
    ofSchedule s = ofSchedule s' := by
  have gross : (ofSchedule s).gross = (ofSchedule s').gross := by
    rw [gross_eq_sum_subtotals, gross_eq_sum_subtotals]
    exact congrArg Money.sum (List.map_congr_left fun c _ => subtotals c)
  have securedTotal : (ofSchedule s).securedTotal = (ofSchedule s').securedTotal :=
    congrArg₂ Money.add realSecured tangibleSecured
  have net : (ofSchedule s).net = (ofSchedule s').net := congrArg₂ Money.sub gross securedTotal
  exact EstateTotals.ext (subtotals .realProperty) realSecured (subtotals .tangibleProperty)
    tangibleSecured (subtotals .intangibleProperty) (subtotals .outsideRealProperty)
    (subtotals .outsidePersonalProperty) securedTotal gross net

/-- The totals do not depend on the order of the items. -/
theorem ofSchedule_reordered (h : NonNegative s.amounts) (r : s.Reordered s') :
    ofSchedule s' = ofSchedule s := by
  refine ofSchedule_congr (fun c => ?subtotal) ?real ?tangible
  case subtotal =>
    rw [subtotal_ofSchedule, subtotal_ofSchedule]
    exact (Money.sum_perm (AssetSchedule.nonNegative_valuesOf h c) ((r c).map _)).symm
  case real =>
    exact (Money.sum_perm (AssetSchedule.nonNegative_debtsOf h .realProperty)
      (((r .realProperty).filterMap _).map _)).symm
  case tangible =>
    exact (Money.sum_perm (AssetSchedule.nonNegative_debtsOf h .tangibleProperty)
      (((r .tangibleProperty).filterMap _).map _)).symm

end EstateTotals

/-! ## Totals of an estate that is built -/

/-- The totals of every estate that is built are exact, up to the largest amount,
and do not depend on the order of the items of any collection. -/
theorem CaseBundle.build_totals_exact (b : CaseBundle) (settings : DocumentSettings) :
    (EstateTotals.ofSchedule (b.build settings).assets).Exact (b.build settings).assets
    ∧ ∀ s : AssetSchedule, (b.build settings).assets.Reordered s →
        EstateTotals.ofSchedule s = EstateTotals.ofSchedule (b.build settings).assets := by
  have amounts : NonNegative (b.build settings).assets.amounts := b.nonNegative_assets
  exact ⟨EstateTotals.exact_ofSchedule amounts,
    fun _ reordered => EstateTotals.ofSchedule_reordered amounts reordered⟩

/-- Two houses on a schedule, one of them mortgaged. -/
def CaseBundle.twoHouses : CaseBundle :=
  { schedules :=
      [{ category := "Real Property", description := "House", value := some (.int 900000)
         securedCreditor := some "Bank", securedAmount := some (.string "$350,000.50") },
        { category := "real", description := "Cabin", value := some (.string "125,000") }] }

/-- The schedule with its real property the other way round. -/
def AssetSchedule.realReversed (s : AssetSchedule) : AssetSchedule :=
  { s with realProperty := s.realProperty.reverse }

theorem AssetSchedule.reordered_realReversed (s : AssetSchedule) :
    s.Reordered s.realReversed := by
  intro c
  cases c with
  | realProperty => exact (List.reverse_perm _).symm
  | tangibleProperty => exact List.Perm.refl _
  | intangibleProperty => exact List.Perm.refl _
  | outsideRealProperty => exact List.Perm.refl _
  | outsidePersonalProperty => exact List.Perm.refl _

theorem CaseBundle.totals_twoHouses_reversed :
    (twoHouses.build {}).assets.Reordered (twoHouses.build {}).assets.realReversed
    ∧ EstateTotals.ofSchedule (twoHouses.build {}).assets.realReversed =
        EstateTotals.ofSchedule (twoHouses.build {}).assets := by
  have reordered := AssetSchedule.reordered_realReversed (twoHouses.build {}).assets
  exact ⟨reordered, (build_totals_exact twoHouses {}).2 _ reordered⟩

end EstateFiling
