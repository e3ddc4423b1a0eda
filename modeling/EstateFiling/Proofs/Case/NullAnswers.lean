import EstateFiling.Proofs.Case.Amounts
import EstateFiling.Proofs.Case.RoundTrip

/-!
# Answers of an interview that are null

An item of an interview may give an amount under several names, and the first answer that
is there counts.  A null that stands first counts too, as no amount, so an amount under a
later name is lost (`Intake.NullHides`).  Leaving out the nulls therefore changes a
schedule exactly where a null stands before a positive amount.  What an item is and who
its creditor is never depend on nulls (`Intake.ofRecords_withoutNulls_iff`).
-/

namespace EstateFiling

open Json

/-! ## Members of objects -/

namespace Json

/-- The value with other values for the members of an object. -/
def mapMembers (change : String → Json → Json) : Json → Json
  | .object members => .object (members.map fun m => (m.1, change m.1 m.2))
  | j => j

/-- The value with other values for the items of a list. -/
def mapItems (change : Json → Json) : Json → Json
  | .array items => .array (items.map change)
  | j => j

/-- The value without the members of an object that are null. -/
def withoutNullMembers : Json → Json
  | .object members => .object (members.filter fun m => !m.2.isNull)
  | j => j

variable {j : Json} {ms : List (String × Json)}

theorem get?_mapMembers (change : String → Json → Json) (j : Json) (name : String) :
    (j.mapMembers change).get? name = (j.get? name).map (change name) := by
  cases j with
  | object ms =>
    rw [mapMembers, get?, get?]
    induction ms with
    | nil => rfl
    | cons m ms ih =>
      rw [List.map_cons, List.lookup_cons, List.lookup_cons]
      cases same : name == m.1 with
      | true => rw [beq_iff_eq.mp same, Option.map_some]
      | false => exact ih
  | _ => rfl

theorem array?_mapItems (change : Json → Json) (j : Json) :
    (j.mapItems change).array? = j.array?.map (List.map change) := by
  cases j <;> rfl

theorem lookup_eq_none_of_notMem {name : String} (h : name ∉ ms.map Prod.fst) :
    ms.lookup name = none := by
  refine List.lookup_eq_none_iff.mpr fun m hm => bne_iff_ne.mpr fun same => ?_
  exact h (List.mem_map.mpr ⟨m, hm, same.symm⟩)

/-- Where no name comes twice, nothing takes the place of a null that is left out. -/
theorem lookup_filter_isNull (distinct : (ms.map Prod.fst).Nodup) (name : String) :
    (ms.filter fun m => !m.2.isNull).lookup name = withoutNull (ms.lookup name) := by
  induction ms with
  | nil => rfl
  | cons m ms ih =>
    obtain ⟨new, distinct⟩ := List.nodup_cons.mp distinct
    have others := ih distinct
    rw [List.filter_cons]
    cases same : name == m.1 with
    | true =>
      rw [beq_iff_eq.mp same, lookup_eq_none_of_notMem new] at others
      rw [List.lookup_cons, same, withoutNull, Option.filter_some]
      split
      · rw [List.lookup_cons, same]
      · rw [beq_iff_eq.mp same, others]
        rfl
    | false =>
      rw [List.lookup_cons, same, ← others]
      split
      · rw [List.lookup_cons, same]
      · rfl

/-! ## Parts of canonical values -/

namespace IsCanonical

theorem canonicalMembers_eq (h : (Json.object ms).IsCanonical) : canonicalMembers ms [] = ms := by
  rw [IsCanonical, canonical] at h
  exact Json.object.inj h

theorem nodup_names (h : (Json.object ms).IsCanonical) : (ms.map Prod.fst).Nodup := by
  rw [← h.canonicalMembers_eq]
  exact (inOrder_canonicalMembers ms).nodup

theorem get? (h : j.IsCanonical) {name : String} {value : Json}
    (found : j.get? name = some value) : value.IsCanonical := by
  cases j with
  | object ms =>
    obtain ⟨before, after, split, -⟩ := List.lookup_eq_some_iff.mp found
    have member : (name, value) ∈ canonicalMembers ms [] := by
      rw [h.canonicalMembers_eq, split]
      exact List.mem_append_right _ List.mem_cons_self
    rcases exists_of_mem_canonicalMembers member with before | ⟨m, -, same⟩
    · cases before
    · rw [(Prod.mk.inj same).2]
      exact canonical_canonical m.2
  | _ => cases found

theorem array? (h : j.IsCanonical) {items : List Json} (list : j.array? = some items) :
    ∀ item ∈ items, item.IsCanonical := by
  cases j with
  | array js =>
    obtain rfl := Option.some.inj list
    rw [IsCanonical, canonical, canonicalItems_eq_map] at h
    exact List.map_inj_left.mp ((Json.array.inj h).trans (List.map_id js).symm)
  | _ => cases list

end IsCanonical

/-- In a canonical value no member that is null hides another of its name. -/
theorem get?_withoutNullMembers (h : j.IsCanonical) (name : String) :
    j.withoutNullMembers.get? name = withoutNull (j.get? name) := by
  cases j with
  | object ms => exact lookup_filter_isNull h.nodup_names name
  | _ => rfl

/-- A null is not a text. -/
theorem bind_string?_withoutNull (x : Option Json) :
    (withoutNull x).bind string? = x.bind string? := by
  rcases x with _ | _ | _ | _ | _ | _ | _ <;> rfl

end Json

theorem toList_withoutNull (x : Option Json) :
    (withoutNull x).toList = x.toList.filter fun j => !j.isNull := by
  rcases x with _ | _ | _ | _ | _ | _ | _ <;> rfl

/-! ## Items and their answers -/

/-- The categories whose items may carry a debt. -/
def AssetCategory.withDebts : List AssetCategory := [.realProperty, .tangibleProperty]

/-- The line without its amounts. -/
def ScheduleRecord.withoutAmounts (r : ScheduleRecord) : ScheduleRecord :=
  { r with value := none, securedAmount := none }

namespace Intake

/-- The item without members that are null, in the debt nested in it as well. -/
def itemWithoutNulls (item : Json) : Json :=
  item.withoutNullMembers.mapMembers fun name value =>
    if name = "secured_debt" then value.withoutNullMembers else value

/-- The payload with every asset item without its nulls. -/
def withoutNulls (payload : Json) : Json :=
  payload.mapMembers fun name value =>
    if name = "assets" then value.mapMembers fun _ items => items.mapItems itemWithoutNulls
    else value

/-- What stands under a name in the debt nested in an item. -/
def nested? (name : String) (item : Json) : Option Json :=
  (item.get? "secured_debt").bind (Json.get? name)

/-- The answers about the value of an item, in the order in which they count. -/
def valueAnswers (item : Json) : List Json :=
  ["value", "market_value", "amount"].filterMap item.get?

/-- The answers about the debt on an item, in the order in which they count. -/
def debtAnswers (item : Json) : List Json :=
  (nested? "amount" item).toList ++ ["secured_amount", "mortgage_amount"].filterMap item.get?

/-- The first answer is null, and the first that is not states an amount. -/
def NullHides (answers : List Json) : Prop :=
  answers.head? = some .null
    ∧ ScheduleRecord.amount (answers.find? fun j => !j.isNull) ≠ Money.zero

theorem amount_find?_eq_iff (answers : List Json) :
    ScheduleRecord.amount (answers.find? fun j => !j.isNull) = ScheduleRecord.amount answers.head?
      ↔ ¬NullHides answers := by
  rw [NullHides, not_and, ne_eq, not_not]
  cases answers with
  | nil => exact ⟨fun _ first => (nomatch first), fun _ => rfl⟩
  | cons j rest =>
    cases j with
    | null => exact ⟨fun same _ => same, fun zero => zero rfl⟩
    | _ => exact ⟨fun _ first => (nomatch first), fun _ => rfl⟩

/-! ## Items without nulls -/

section Item

variable {item : Json}

theorem get?_itemWithoutNulls (h : item.IsCanonical) (name : String) :
    (itemWithoutNulls item).get? name = (withoutNull (item.get? name)).map fun value =>
      if name = "secured_debt" then value.withoutNullMembers else value := by
  rw [itemWithoutNulls, get?_mapMembers, get?_withoutNullMembers h]

theorem get?_itemWithoutNulls_flat (h : item.IsCanonical) {name : String}
    (flat : name ≠ "secured_debt") :
    (itemWithoutNulls item).get? name = withoutNull (item.get? name) := by
  rw [get?_itemWithoutNulls h]
  simp only [if_neg flat, Option.map_id']

theorem nested?_itemWithoutNulls (h : item.IsCanonical) (name : String) :
    nested? name (itemWithoutNulls item) = withoutNull (nested? name item) := by
  rw [nested?, nested?, get?_itemWithoutNulls h]
  simp only [if_true]
  cases debt : item.get? "secured_debt" with
  | none => rfl
  | some value =>
    cases value with
    | null => rfl
    | _ => exact get?_withoutNullMembers (h.get? debt) name

/-- Only an answer that is there and not null is left. -/
theorem filterMap_get?_itemWithoutNulls (h : item.IsCanonical) {names : List String}
    (flat : "secured_debt" ∉ names) :
    names.filterMap (itemWithoutNulls item).get?
      = (names.filterMap item.get?).filter fun j => !j.isNull := by
  rw [List.filter_filterMap]
  refine List.filterMap_congr fun name member => ?_
  exact get?_itemWithoutNulls_flat h fun same => flat (same ▸ member)

theorem valueAnswers_itemWithoutNulls (h : item.IsCanonical) :
    valueAnswers (itemWithoutNulls item) = (valueAnswers item).filter fun j => !j.isNull :=
  filterMap_get?_itemWithoutNulls h (by decide)

theorem debtAnswers_itemWithoutNulls (h : item.IsCanonical) :
    debtAnswers (itemWithoutNulls item) = (debtAnswers item).filter fun j => !j.isNull := by
  rw [debtAnswers, debtAnswers, List.filter_append, nested?_itemWithoutNulls h,
    filterMap_get?_itemWithoutNulls h (by decide), toList_withoutNull]

theorem textUnder?_itemWithoutNulls (h : item.IsCanonical) {names : List String}
    (flat : "secured_debt" ∉ names) :
    textUnder? names (itemWithoutNulls item) = textUnder? names item := by
  rw [textUnder?, textUnder?, ← List.head?_filterMap, ← List.head?_filterMap]
  have texts : names.filterMap (fun name => ((itemWithoutNulls item).get? name).bind string?)
      = names.filterMap fun name => (item.get? name).bind string? := by
    refine List.filterMap_congr fun name member => ?_
    rw [get?_itemWithoutNulls_flat h fun same => flat (same ▸ member), bind_string?_withoutNull]
  rw [texts]

/-- What an item is and who its creditor is do not depend on nulls. -/
theorem withoutAmounts_line_itemWithoutNulls (h : item.IsCanonical) (c : AssetCategory) :
    (line c (itemWithoutNulls item)).withoutAmounts = (line c item).withoutAmounts := by
  have description :
      textUnder? ["description", "name", "label"] (itemWithoutNulls item)
        = textUnder? ["description", "name", "label"] item :=
    textUnder?_itemWithoutNulls h (by decide)
  have flatCreditor :
      textUnder? ["secured_creditor", "mortgage_holder"] (itemWithoutNulls item)
        = textUnder? ["secured_creditor", "mortgage_holder"] item :=
    textUnder?_itemWithoutNulls h (by decide)
  have nestedCreditor : (nested? "creditor" (itemWithoutNulls item)).bind string?
      = (nested? "creditor" item).bind string? := by
    rw [nested?_itemWithoutNulls h, bind_string?_withoutNull]
  unfold nested? at nestedCreditor
  simp only [line, ScheduleRecord.withoutAmounts, description, flatCreditor, nestedCreditor]

theorem amount_value_line (c : AssetCategory) (item : Json) :
    ScheduleRecord.amount (line c item).value
      = ScheduleRecord.amount (valueAnswers item).head? := by
  rw [valueAnswers, List.head?_filterMap]
  exact CaseBundle.amount_withoutNull _

theorem amount_securedAmount_line (c : AssetCategory) (item : Json) :
    ScheduleRecord.amount (line c item).securedAmount
      = ScheduleRecord.amount (debtAnswers item).head? := by
  have line_eq : (line c item).securedAmount = (nested? "amount" item).orElse fun _ =>
      valueUnder? ["secured_amount", "mortgage_amount"] item := rfl
  rw [line_eq, debtAnswers, List.head?_append, List.head?_filterMap]
  cases nested? "amount" item with
  | none => exact CaseBundle.amount_withoutNull _
  | some j => rfl

theorem amount_value_itemWithoutNulls_iff (h : item.IsCanonical) (c : AssetCategory) :
    ScheduleRecord.amount (line c (itemWithoutNulls item)).value
        = ScheduleRecord.amount (line c item).value
      ↔ ¬NullHides (valueAnswers item) := by
  rw [amount_value_line, amount_value_line, valueAnswers_itemWithoutNulls h, List.head?_filter]
  exact amount_find?_eq_iff _

theorem amount_securedAmount_itemWithoutNulls_iff (h : item.IsCanonical) (c : AssetCategory) :
    ScheduleRecord.amount (line c (itemWithoutNulls item)).securedAmount
        = ScheduleRecord.amount (line c item).securedAmount
      ↔ ¬NullHides (debtAnswers item) := by
  rw [amount_securedAmount_line, amount_securedAmount_line, debtAnswers_itemWithoutNulls h,
    List.head?_filter]
  exact amount_find?_eq_iff _

end Item

end Intake

/-! ## Lines that differ in their amounts -/

namespace ScheduleRecord

variable {r r' : ScheduleRecord}

theorem asset_eq_iff (others : r.withoutAmounts = r'.withoutAmounts) :
    r.asset = r'.asset ↔ amount r.value = amount r'.value := by
  have description : r.description = r'.description :=
    (congrArg ScheduleRecord.description others :)
  simp only [asset, description, Asset.mk.injEq, true_and]

/-- The debt of a line keeps the amount: there is none only where the amount is zero. -/
theorem amount_securedDebt? (r : ScheduleRecord) :
    (r.securedDebt?.map SecuredDebt.amount).getD Money.zero = amount r.securedAmount := by
  rw [securedDebt?]
  split
  · rfl
  · rename_i noDebt
    rw [Bool.or_eq_true, not_or, decide_eq_true_eq, Int.not_lt] at noDebt
    exact Money.ext (Int.le_antisymm (amount_nonneg r.securedAmount) noDebt.1)

theorem securedDebt?_eq_iff (others : r.withoutAmounts = r'.withoutAmounts) :
    r.securedDebt? = r'.securedDebt? ↔ amount r.securedAmount = amount r'.securedAmount := by
  have creditor : r.securedCreditor = r'.securedCreditor :=
    (congrArg ScheduleRecord.securedCreditor others :)
  refine ⟨fun same => ?_, fun same => ?_⟩
  · rw [← amount_securedDebt?, same, amount_securedDebt?]
  · simp only [securedDebt?, creditor, same]

theorem securedAsset_eq_iff (others : r.withoutAmounts = r'.withoutAmounts) :
    r.securedAsset = r'.securedAsset ↔
      amount r.value = amount r'.value ∧ amount r.securedAmount = amount r'.securedAmount := by
  have description : r.description = r'.description :=
    (congrArg ScheduleRecord.description others :)
  simp only [securedAsset, description, SecuredAsset.mk.injEq, true_and,
    securedDebt?_eq_iff others]

end ScheduleRecord

/-! ## Schedules -/

theorem AssetCategory.parse?_key (c : AssetCategory) : parse? c.key = some c := by
  cases c <;> decide

namespace Intake

theorem isOf_line (c c' : AssetCategory) (item : Json) :
    (line c' item).isOf c = decide (c' = c) := by
  unfold ScheduleRecord.isOf
  simp only [line, AssetCategory.parse?_key, Option.some.injEq]

/-- The lines of a category are those of its items. -/
theorem filter_isOf_lines (payload : Json) (c : AssetCategory) :
    (lines payload).filter (ScheduleRecord.isOf c) = (items payload c).map (line c) := by
  have category : ∀ c', ((items payload c').map (line c')).filter (ScheduleRecord.isOf c)
      = if c' = c then (items payload c').map (line c') else [] := by
    intro c'
    split
    · refine List.filter_eq_self.mpr (List.forall_mem_map.mpr fun item _ => ?_)
      rw [isOf_line]
      exact decide_eq_true ‹c' = c›
    · refine List.filter_eq_nil_iff.mpr (List.forall_mem_map.mpr fun item _ => ?_)
      rw [isOf_line]
      exact fun same => ‹c' ≠ c› (of_decide_eq_true same)
  rw [lines, List.filter_flatMap]
  simp only [category]
  cases c <;> simp [AssetCategory.all]

theorem items_withoutNulls (payload : Json) (c : AssetCategory) :
    items (withoutNulls payload) c = (items payload c).map itemWithoutNulls := by
  rw [items, items, withoutNulls, get?_mapMembers]
  cases payload.get? "assets" with
  | none => rfl
  | some assets =>
    simp only [Option.map_some, if_true, Option.bind_some, get?_mapMembers]
    cases assets.get? c.key with
    | none => rfl
    | some list =>
      simp only [Option.map_some, Option.bind_some, array?_mapItems]
      cases list.array? <;> rfl

theorem isCanonical_of_mem_items {payload : Json} (h : payload.IsCanonical) {c : AssetCategory} :
    ∀ item ∈ items payload c, item.IsCanonical := by
  rw [items]
  cases list : ((payload.get? "assets").bind (Json.get? c.key)).bind array? with
  | none => exact List.forall_mem_nil _
  | some items =>
    obtain ⟨value, given, list⟩ := Option.bind_eq_some_iff.mp list
    obtain ⟨assets, found, given⟩ := Option.bind_eq_some_iff.mp given
    exact ((h.get? found).get? given).array? list

/-- Two schedules of lines are the same if the items of each category make the same assets. -/
theorem ofRecords_lines_withoutNulls_eq_iff (payload : Json) :
    AssetSchedule.ofRecords (lines (withoutNulls payload))
        = AssetSchedule.ofRecords (lines payload)
      ↔ ∀ c, ∀ item ∈ items payload c,
        if c ∈ AssetCategory.withDebts
          then (line c (itemWithoutNulls item)).securedAsset = (line c item).securedAsset
          else (line c (itemWithoutNulls item)).asset = (line c item).asset := by
  unfold AssetSchedule.ofRecords
  simp only [filter_isOf_lines, items_withoutNulls, List.map_map, AssetSchedule.mk.injEq,
    List.map_inj_left, Function.comp_apply]
  refine ⟨?_, ?_⟩
  · rintro ⟨real, tangible, intangible, outsideReal, outsidePersonal⟩ c
    cases c with
    | realProperty => exact real
    | tangibleProperty => exact tangible
    | intangibleProperty => exact intangible
    | outsideRealProperty => exact outsideReal
    | outsidePersonalProperty => exact outsidePersonal
  · intro all
    exact ⟨all .realProperty, all .tangibleProperty, all .intangibleProperty,
      all .outsideRealProperty, all .outsidePersonalProperty⟩

/-- Leaving out nulls changes amounts only. -/
theorem withoutAmounts_lines_withoutNulls {payload : Json} (h : payload.IsCanonical) :
    (lines (withoutNulls payload)).map ScheduleRecord.withoutAmounts
      = (lines payload).map ScheduleRecord.withoutAmounts := by
  rw [lines, lines, List.map_flatMap, List.map_flatMap]
  refine congrArg (List.flatMap · AssetCategory.all) (funext fun c => ?_)
  rw [items_withoutNulls, List.map_map, List.map_map, List.map_map]
  refine List.map_congr_left fun item member => ?_
  exact withoutAmounts_line_itemWithoutNulls (isCanonical_of_mem_items h item member) c

/-- The answers of an interview that are null, in the form in which a payload is kept.
Leaving them out changes no description, no category and no creditor.  It changes the
schedule exactly where a null hides what an item is worth, or, in a category whose items
carry debts, what is owed on it. -/
theorem ofRecords_withoutNulls_iff (payload : Json) :
    (lines (withoutNulls payload.canonical)).map ScheduleRecord.withoutAmounts
        = (lines payload.canonical).map ScheduleRecord.withoutAmounts
    ∧ (AssetSchedule.ofRecords (lines (withoutNulls payload.canonical))
          = AssetSchedule.ofRecords (lines payload.canonical)
        ↔ ∀ c, ∀ item ∈ items payload.canonical c,
          ¬NullHides (valueAnswers item)
          ∧ (c ∈ AssetCategory.withDebts → ¬NullHides (debtAnswers item))) := by
  have canonical : payload.canonical.IsCanonical := canonical_canonical payload
  refine ⟨withoutAmounts_lines_withoutNulls canonical, ?_⟩
  rw [ofRecords_lines_withoutNulls_eq_iff]
  refine forall_congr' fun c => forall₂_congr fun item member => ?_
  have h : item.IsCanonical := isCanonical_of_mem_items canonical item member
  have others := withoutAmounts_line_itemWithoutNulls h c
  split
  · rename_i debts
    rw [ScheduleRecord.securedAsset_eq_iff others, amount_value_itemWithoutNulls_iff h,
      amount_securedAmount_itemWithoutNulls_iff h]
    simp only [debts, true_imp_iff]
  · rename_i noDebts
    rw [ScheduleRecord.asset_eq_iff others, amount_value_itemWithoutNulls_iff h]
    simp only [noDebts, false_imp_iff, and_true]

/-- A house with a null for its value and for the amount of its debt, each before an amount
under another name. -/
def houseWithNulls : Json :=
  .object [("assets", .object [("real_property", .array [.object
    [("description", .string "House"), ("value", .null), ("market_value", .nat 300000),
      ("secured_debt", .object [("creditor", .string "Bank"), ("amount", .null)]),
      ("mortgage_amount", .string "1,000")]])])]

theorem houseWithNulls_loses_amounts :
    AssetSchedule.ofRecords (lines (withoutNulls houseWithNulls.canonical))
      ≠ AssetSchedule.ofRecords (lines houseWithNulls.canonical) := by
  decide

end Intake

end EstateFiling
