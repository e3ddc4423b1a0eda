import EstateFiling.Case.Import
import EstateFiling.Proofs.Case.Collections
import EstateFiling.Proofs.Text.Utf8

/-!
# Placing schedule lines

The lines of a schedule are placed one after the other (`AssetSchedule.place`): a line goes to
the end of the collection of its category, and a line of no category goes nowhere.  So each
collection has one item for each line of its category, in the order of the lines, and
nothing is lost but the lines of no category (`AssetSchedule.placing_loses_nothing`).

Lines added to a schedule only add items at the end.  For a case that holds where it has a
schedule on record.  Where it has none, its assets are those of the interview, and the first
line on record puts the whole schedule in their place
(`CaseBundle.interviewHouse_not_onlyAdds`).
-/

namespace EstateFiling

/-! ## One line -/

namespace ScheduleRecord

/-- A line states a debt: it names a creditor or a positive amount. -/
def StatesDebt (r : ScheduleRecord) : Prop :=
  Text.isBlankText (r.securedCreditor.getD "") = false
  ∨ ∃ m, r.securedAmount.bind Json.moneyAmount? = some m ∧ 0 < m.cents

/-- What a line says of its asset in a category. -/
structure Describes (c : AssetCategory) (r : ScheduleRecord) (a : SecuredAsset) : Prop where
  /-- The description is trimmed. -/
  description : a.description = Text.trim r.description
  /-- A value that is missing or malformed is zero. -/
  value : a.value = (r.value.bind Json.moneyAmount?).getD Money.zero
  /-- There is a debt if the line states one and the category has debts. -/
  secured_iff : a.securedDebt.isSome = true ↔ c ∈ AssetCategory.withDebts ∧ r.StatesDebt
  /-- The debt is the one the line states. -/
  debt : ∀ d ∈ a.securedDebt, d.creditor = Text.trim (r.securedCreditor.getD "")
    ∧ d.amount = (r.securedAmount.bind Json.moneyAmount?).getD Money.zero

theorem amount_pos_iff (value : Option Json) :
    0 < (amount value).cents ↔ ∃ m, value.bind Json.moneyAmount? = some m ∧ 0 < m.cents := by
  rw [amount]
  cases value.bind Json.moneyAmount? with
  | none => exact iff_of_false (Int.lt_irrefl 0) fun ⟨_, found, _⟩ => nomatch found
  | some m => simp

theorem isSome_securedDebt?_iff (r : ScheduleRecord) :
    r.securedDebt?.isSome = true ↔ r.StatesDebt := by
  rw [StatesDebt, ← amount_pos_iff, ← Text.isEmpty_trim, or_comm]
  simp only [securedDebt?, Field.text, Option.isSome_ite, Bool.or_eq_true, decide_eq_true_eq,
    Bool.not_eq_true']

theorem securedDebt?_of_statesDebt {r : ScheduleRecord} (h : r.StatesDebt) :
    r.securedDebt? = some ⟨Field.text r.securedCreditor, amount r.securedAmount⟩ := by
  obtain ⟨d, found⟩ := Option.isSome_iff_exists.mp ((isSome_securedDebt?_iff r).mpr h)
  have stated := found
  simp only [securedDebt?, Option.ite_none_right_eq_some] at stated
  rw [found, ← stated.2]

theorem describes_item (c : AssetCategory) (r : ScheduleRecord) : r.Describes c (r.item c) := by
  by_cases debts : c ∈ AssetCategory.withDebts
  · rw [item, if_pos debts]
    refine ⟨rfl, rfl, (isSome_securedDebt?_iff r).trans (and_iff_right debts).symm, ?_⟩
    intro d found
    simp only [securedAsset, securedDebt?, Option.mem_def, Option.ite_none_right_eq_some] at found
    obtain ⟨-, same⟩ := found
    cases same
    exact ⟨rfl, rfl⟩
  · rw [item, if_neg debts]
    exact ⟨rfl, rfl, iff_of_false Bool.false_ne_true fun both => debts both.1,
      fun d found => absurd found (Option.not_mem_none d)⟩

end ScheduleRecord

/-! ## One line after the other -/

namespace AssetSchedule

open ScheduleRecord

/-- A line goes to the end of the collection of its category, if it has one. -/
def place (s : AssetSchedule) (r : ScheduleRecord) : AssetSchedule :=
  match AssetCategory.parse? r.category with
  | some .realProperty => { s with realProperty := s.realProperty ++ [r.securedAsset] }
  | some .tangibleProperty =>
      { s with tangibleProperty := s.tangibleProperty ++ [r.securedAsset] }
  | some .intangibleProperty => { s with intangibleProperty := s.intangibleProperty ++ [r.asset] }
  | some .outsideRealProperty =>
      { s with outsideRealProperty := s.outsideRealProperty ++ [r.asset] }
  | some .outsidePersonalProperty =>
      { s with outsidePersonalProperty := s.outsidePersonalProperty ++ [r.asset] }
  | none => s

/-- The number of items in all collections. -/
def size (s : AssetSchedule) : Nat :=
  s.realProperty.length + s.tangibleProperty.length + s.intangibleProperty.length
    + s.outsideRealProperty.length + s.outsidePersonalProperty.length

/-- Placing a line touches the collection of its category only. -/
theorem items_place (s : AssetSchedule) (r : ScheduleRecord) (c : AssetCategory) :
    (s.place r).items c = s.items c ++ if r.isOf c then [r.item c] else [] := by
  unfold place isOf
  -- The category that the line names decides on both sides, not the one that is looked at.
  cases AssetCategory.parse? r.category with
  | none => simp
  | some named => cases named <;> cases c <;> simp [items, item, AssetCategory.withDebts]

theorem size_place (s : AssetSchedule) (r : ScheduleRecord) :
    (s.place r).size = s.size + if (AssetCategory.parse? r.category).isSome then 1 else 0 := by
  unfold place size
  cases AssetCategory.parse? r.category with
  | none => rfl
  | some named => cases named <;> simp <;> omega

theorem items_foldl_place (rs : List ScheduleRecord) (s : AssetSchedule) (c : AssetCategory) :
    (rs.foldl place s).items c = s.items c ++ (rs.filter (isOf c)).map (item c) := by
  induction rs generalizing s with
  | nil => exact (List.append_nil _).symm
  | cons r rs ih =>
    rw [List.foldl_cons, ih, items_place, List.append_assoc, List.filter_cons]
    split
    · rfl
    · rfl

theorem size_foldl_place (rs : List ScheduleRecord) (s : AssetSchedule) :
    (rs.foldl place s).size
      = s.size + (rs.filter fun r => (AssetCategory.parse? r.category).isSome).length := by
  induction rs generalizing s with
  | nil => rfl
  | cons r rs ih =>
    rw [List.foldl_cons, ih, size_place, List.filter_cons]
    split
    · rw [List.length_cons]
      omega
    · rfl

/-- A schedule is made by placing its lines one after the other. -/
theorem ofRecords_eq_foldl (rs : List ScheduleRecord) : ofRecords rs = rs.foldl place {} := by
  refine ext_items fun c => ?_
  rw [items_ofRecords, items_foldl_place, items_empty, List.nil_append]

theorem ofRecords_append (xs ys : List ScheduleRecord) :
    ofRecords (xs ++ ys) = ofRecords xs ++ ofRecords ys := by
  refine ext_items fun c => ?_
  rw [items_append, items_ofRecords, items_ofRecords, items_ofRecords,
    List.filter_append, List.map_append]

/-- Each line of a category has its item, in order. -/
theorem describes_items (rs : List ScheduleRecord) (c : AssetCategory) :
    List.Forall₂ (Describes c) (rs.filter (isOf c)) ((ofRecords rs).items c) := by
  rw [items_ofRecords, List.forall₂_map_right_iff, List.forall₂_same]
  exact fun r _ => describes_item c r

/-- The items of a schedule are at the front of the collections of another. -/
def OnlyAdds (s t : AssetSchedule) : Prop := ∀ c, s.items c <+: t.items c

end AssetSchedule

/-! ## Lines added to a case -/

namespace CaseBundle

open AssetSchedule

/-- The bundle with further lines in its schedule. -/
def addLines (b : CaseBundle) (rs : List ScheduleRecord) : CaseBundle :=
  { b with schedules := b.schedules ++ rs }

/-- The schedule lines in the answers of the interview. -/
def interviewLines (b : CaseBundle) : List ScheduleRecord :=
  (b.payload?.map Intake.lines).getD []

theorem recordedAssets_eq (b : CaseBundle) :
    b.recordedAssets = ofRecords (if b.schedules = [] then b.interviewLines else b.schedules) := by
  unfold recordedAssets interviewLines
  cases b.schedules with
  | nil => cases b.payload? <;> rfl
  | cons r rs => rfl

/-- Added lines come after what is on record, where that is a schedule or nothing. -/
theorem recordedAssets_addLines {b : CaseBundle}
    (h : b.schedules ≠ [] ∨ b.interviewLines = []) (rs : List ScheduleRecord) :
    (b.addLines rs).recordedAssets = b.recordedAssets ++ ofRecords rs := by
  rw [recordedAssets_eq, recordedAssets_eq, ← ofRecords_append]
  refine congrArg ofRecords ?_
  show (if b.schedules ++ rs = [] then b.interviewLines else b.schedules ++ rs) = _
  by_cases scheduled : b.schedules = []
  · have answers : b.interviewLines = [] := h.resolve_left fun not => not scheduled
    simp [scheduled, answers]
  · simp [scheduled]

/-- The first line on record takes the place of the interview. -/
theorem recordedAssets_addLines_of_nil {b : CaseBundle} (h : b.schedules = [])
    {rs : List ScheduleRecord} (added : rs ≠ []) :
    (b.addLines rs).recordedAssets = ofRecords rs := by
  have lines : (b.addLines rs).schedules = rs := by rw [addLines, h, List.nil_append]
  rw [recordedAssets_eq, lines, if_neg added]

/-- What is on record stays at the front of a collection, or was not used before either. -/
theorem onlyAdds_assets {b b' : CaseBundle} (entered : b.overrides = b'.overrides)
    (h : OnlyAdds b.recordedAssets b'.recordedAssets) : OnlyAdds b.assets b'.assets := by
  intro c
  rw [items_assets, items_assets, entered]
  cases (b'.overrides.get? c.entryKey).bind (OverrideLine.items? c) with
  | none => exact h c
  | some items => exact List.prefix_rfl

end CaseBundle

/-! ## Nothing is lost -/

open AssetSchedule in
/-- Placing lines loses nothing.  The lines are placed one after the other.  A collection
has one item for each line of its category, as the line describes it and in the order of the
lines, and there are no more items than lines of some category.  Lines that are added add
items at the end.  So they do in a case that has a schedule, or no assets from the interview;
the first lines of a schedule take the place of the assets from the interview. -/
theorem AssetSchedule.placing_loses_nothing (xs ys : List ScheduleRecord) :
    ofRecords xs = xs.foldl place {}
    ∧ (∀ c, List.Forall₂ (ScheduleRecord.Describes c)
        (xs.filter fun r => AssetCategory.parse? r.category = some c)
        ((ofRecords xs).items c))
    ∧ (ofRecords xs).size
        = (xs.filter fun r => (AssetCategory.parse? r.category).isSome).length
    ∧ (∀ c, (ofRecords (xs ++ ys)).items c
        = (ofRecords xs).items c ++ (ofRecords ys).items c)
    ∧ ∀ (b : CaseBundle) (settings : DocumentSettings),
        (b.schedules ≠ [] ∨ b.interviewLines = [] →
          OnlyAdds (b.build settings).assets ((b.addLines ys).build settings).assets)
        ∧ (b.schedules = [] → ys ≠ [] → (b.addLines ys).recordedAssets = ofRecords ys) := by
  refine ⟨ofRecords_eq_foldl xs, describes_items xs, ?size, fun c => ?append,
    fun b settings => ⟨fun h => ?added, fun h => CaseBundle.recordedAssets_addLines_of_nil h⟩⟩
  case size =>
    rw [ofRecords_eq_foldl, size_foldl_place]
    exact Nat.zero_add _
  case append => rw [ofRecords_append, items_append]
  case added =>
    refine CaseBundle.onlyAdds_assets rfl fun c => ?_
    rw [CaseBundle.recordedAssets_addLines h, items_append]
    exact List.prefix_append _ _

namespace CaseBundle

/-- A case without a schedule whose interview has a house. -/
def interviewHouse : CaseBundle :=
  { intake := some { payload := .object [("assets", .object [("real_property", .array [.object
      [("description", .string "House"), ("value", .nat 300000)]])])] } }

/-- A schedule file with a cabin. -/
def cabinFile : String := "Category,Description\nreal,Cabin\n"

/-- The line of the cabin. -/
def cabin : ScheduleRecord := { category := "real", description := "Cabin" }

theorem interviewHouse_not_onlyAdds :
    ScheduleRecord.ofCsv (Text.toUtf8 cabinFile) = .ok [cabin]
    ∧ ¬ AssetSchedule.OnlyAdds (interviewHouse.build {}).assets
        ((interviewHouse.addLines [cabin]).build {}).assets := by
  refine ⟨?_, fun added => absurd (added .realProperty) (by decide)⟩
  rw [Text.toUtf8_eq_flatMap]
  rfl

end CaseBundle

end EstateFiling
