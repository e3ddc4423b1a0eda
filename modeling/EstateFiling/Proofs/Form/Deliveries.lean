import EstateFiling.Proofs.Document.Lookups
import EstateFiling.Proofs.Form.Beneficiaries

/-!
# Deliveries in the affidavit

The affidavit of delivery takes the deliveries apart by their method and prints a box for
each method, and a table for each method by which something was delivered
(`DeliveryAffidavit.tables_document`).  Each delivery has one method, so it has one row
(`DeliveryAffidavit.length_rows`).  After the tables the affidavit lists the deliveries
that were received for someone else, by whatever method, in one list
(`DeliveryAffidavit.under?_represented`).

So the affidavit accounts for every delivery (`EstateModel.deliveries_accounted_for`).
-/

namespace EstateFiling

/-! ## Boxes with an identifier -/

/-- The groups of boxes with an identifier. -/
def DocumentContent.groupsNamed (d : DocumentContent) (id : String) : List CheckboxGroup :=
  d.checkboxGroups.filter fun g => g.id == id

theorem DocumentContent.count_eq_length_groupsNamed (d : DocumentContent) (id : String) :
    (d.checkboxGroups.map CheckboxGroup.id).count id = (d.groupsNamed id).length := by
  unfold groupsNamed
  rw [List.count, List.countP_map, List.countP_eq_length_filter]
  rfl

theorem DocumentContent.checks_iff_groupsNamed (d : DocumentContent) (id box : String) :
    d.Checks id box ↔ ∃ g ∈ d.groupsNamed id, g.isChecked box = true := by
  simp only [Checks, groupsNamed, List.mem_filter, beq_iff_eq, and_assoc]

theorem EstateModel.deliveriesBy_ne_nil_iff (m : EstateModel) (method : DeliveryMethod) :
    m.deliveriesBy method ≠ [] ↔ ∃ e ∈ m.deliveries, e.method = method := by
  unfold deliveriesBy
  rw [ne_eq, List.filter_eq_nil_iff]
  simp

namespace DeliveryAffidavit

variable (style : StyleProfile) (m : EstateModel)

/-! ## Boxes of the methods -/

theorem groupsNamed_boxId (method : DeliveryMethod) :
    (document style m).groupsNamed (boxId method) =
      [Compose.checkboxGroup style (boxId method) none
        [(boxId method, description method, !(m.deliveriesBy method).isEmpty)] 1] := by
  unfold DocumentContent.groupsNamed
  rw [checkboxGroups_document]
  cases method <;>
    simp [DeliveryMethod.all, methodGroups, acknowledgementGroup, boxId, Compose.checkboxGroup,
      Compose.passageGroup, Compose.choiceGroup, willCopy, electronicWillDemand]

theorem groupsNamed_acknowledged :
    (document style m).groupsNamed "electronic_acknowledged" =
      if m.deliveriesBy .electronic = [] then [] else [acknowledgementGroup style m] := by
  unfold DocumentContent.groupsNamed
  rw [checkboxGroups_document]
  by_cases undelivered : m.deliveriesBy .electronic = [] <;>
    simp [undelivered, DeliveryMethod.all, methodGroups, acknowledgementGroup, boxId,
      Compose.checkboxGroup, Compose.passageGroup, Compose.choiceGroup, willCopy,
      electronicWillDemand]

theorem checks_boxId_iff (method : DeliveryMethod) :
    (document style m).Checks (boxId method) (boxId method) ↔ m.deliveriesBy method ≠ [] := by
  rw [DocumentContent.checks_iff_groupsNamed, groupsNamed_boxId]
  simp [CheckboxGroup.isChecked, Compose.checkboxGroup, Compose.option]

theorem checks_acknowledged_iff :
    (document style m).Checks "electronic_acknowledged" "electronic_acknowledged" ↔
      m.deliveriesBy .electronic ≠ []
        ∧ ∀ e ∈ m.deliveriesBy .electronic, e.acknowledged = true := by
  rw [DocumentContent.checks_iff_groupsNamed, groupsNamed_acknowledged]
  split_ifs with undelivered
  · simp [undelivered]
  · simp [CheckboxGroup.isChecked, acknowledgementGroup, Compose.checkboxGroup, Compose.option,
      allElectronicAcknowledged, undelivered]

/-! ## Tables of the methods -/

/-- The table of a method. -/
def methodTable (method : DeliveryMethod) : Table where
  id := tableId method
  header := header method
  rows := (m.deliveriesBy method).map (row method)
  size := style.smallSize

/-- The methods by which something was delivered. -/
def methodsUsed : List DeliveryMethod :=
  DeliveryMethod.all.filter fun method => m.deliveriesBy method ≠ []

theorem mem_methodsUsed_iff (method : DeliveryMethod) :
    method ∈ methodsUsed m ↔ m.deliveriesBy method ≠ [] := by
  have every : method ∈ DeliveryMethod.all := by cases method <;> decide
  simp [methodsUsed, every]

theorem tablesOf_methodBlocks (method : DeliveryMethod) :
    tablesOf (methodBlocks style m method) =
      if m.deliveriesBy method ≠ [] then [methodTable style m method] else [] := by
  unfold methodBlocks
  by_cases undelivered : m.deliveriesBy method = []
  · simp only [undelivered, List.isEmpty_nil, if_true, ne_eq, not_true_eq_false, if_false]
    rfl
  · simp only [undelivered, List.isEmpty_eq_false_iff.mpr undelivered, Bool.false_eq_true,
      if_false, ne_eq, not_false_eq_true, if_true]
    split_ifs <;> rfl

/-- There is one table for each method by which something was delivered. -/
theorem tables_document :
    (document style m).tables = (methodsUsed m).map (methodTable style m) := by
  have methods : ∀ methods : List DeliveryMethod,
      tablesOf (methods.flatMap (methodBlocks style m)) =
        (methods.filter fun method => m.deliveriesBy method ≠ []).map (methodTable style m) := by
    intro methods
    induction methods with
    | nil => rfl
    | cons method rest ih =>
      rw [List.flatMap_cons, tablesOf_append, tablesOf_methodBlocks, ih]
      by_cases undelivered : m.deliveriesBy method = [] <;> simp [undelivered]
  have affidavit : (affidavit style m).tables =
      tablesOf (DeliveryMethod.all.flatMap (methodBlocks style m)) := by
    unfold Section.tables affidavit
    simp only [tablesOf_append, Compose.tablesOf_enumerationOrNone]
    show [] ++ tablesOf _ ++ [] ++ [] ++ [] = _
    simp only [List.nil_append, List.append_nil]
  rw [DocumentContent.tables_eq, methodsUsed, ← methods, ← affidavit]
  exact List.flatMap_singleton ..

theorem tableId_injective {method other : DeliveryMethod} (h : tableId method = tableId other) :
    method = other := by
  cases method <;> cases other <;> first | rfl | exact absurd h (by decide)

theorem tableId_mem_iff (method : DeliveryMethod) :
    tableId method ∈ (document style m).tables.map Table.id ↔ m.deliveriesBy method ≠ [] := by
  rw [tables_document, List.map_map, ← mem_methodsUsed_iff]
  constructor
  · intro mem
    obtain ⟨other, used, same⟩ := List.mem_map.mp mem
    rwa [← tableId_injective same]
  · exact fun used => List.mem_map.mpr ⟨method, used, rfl⟩

/-- A row tells of a delivery who received it and when; that of an electronic delivery also
tells whether receipt was acknowledged. -/
structure Tells (r : TableRow) (e : Delivery) : Prop where
  /-- The recipient stands first, or dots. -/
  recipient : r.cells[0]? =
    some (if Text.isBlankText e.recipient then Filler.dots 30 else Text.trim e.recipient)
  /-- Then the date, or dots. -/
  date : r.cells[1]? = some (match e.deliveredOn with
    | some day => day.longText
    | none => Filler.dots 20)
  /-- After these stands the acknowledgement of an electronic delivery, and nothing else. -/
  receipt : r.cells.drop 2 =
    if e.method = .electronic then [if e.acknowledged then "Yes" else "No"] else []
  /-- The row is no total. -/
  plain : r.emphasis = false

theorem tells_row (e : Delivery) : Tells (row e.method e) e where
  recipient := by
    rw [← Text.isEmpty_trim]
    cases e.method <;> rfl
  date := by cases e.method <;> rfl
  receipt := by cases e.method <;> rfl
  plain := rfl

/-- The table of a method has a row for each delivery by it. -/
theorem tells_methodTable (method : DeliveryMethod) :
    List.Forall₂ Tells (methodTable style m method).rows
      (m.deliveries.filter fun e => e.method = method) := by
  unfold methodTable EstateModel.deliveriesBy
  rw [List.forall₂_map_left_iff, List.forall₂_same]
  intro e he
  have own : e.method = method := by simpa using (List.mem_filter.mp he).2
  exact own ▸ tells_row e

/-- Each delivery is in one table. -/
theorem length_rows :
    ((document style m).tables.flatMap Table.rows).length = m.deliveries.length := by
  have distinct : (methodsUsed m).Nodup :=
    (by decide : DeliveryMethod.all.Nodup).filter _
  have parts := flatMap_filter_perm Delivery.method m.deliveries distinct
  have every : ∀ e ∈ m.deliveries, decide (e.method ∈ methodsUsed m) = true := by
    intro e he
    rw [decide_eq_true_iff, mem_methodsUsed_iff, m.deliveriesBy_ne_nil_iff]
    exact ⟨e, he, rfl⟩
  rw [List.filter_eq_self.mpr every] at parts
  rw [← parts.length_eq, tables_document, List.flatMap_map, List.length_flatMap,
    List.length_flatMap]
  simp only [methodTable, EstateModel.deliveriesBy, List.length_map]

/-! ## Deliveries for someone else -/

/-- An entry states who received a delivery for whom, and in what capacity. -/
def Represents (entry : String) (e : Delivery) : Prop :=
  ∃ c ∈ e.onBehalfOf, entry =
    Filler.orDots c.person 30 ++ " received delivery on behalf of "
      ++ Filler.orDots e.recipient 30 ++ ", in the capacity of " ++ Filler.orDots c.capacity 20
      ++ "."

/-- The deliveries with a capacity have an entry each. -/
theorem represents_entries (deliveries : List Delivery) :
    List.Forall₂ Represents (deliveries.filterMap capacityEntry?)
      (deliveries.filter fun e => e.onBehalfOf.isSome) := by
  induction deliveries with
  | nil => exact .nil
  | cons e rest ih =>
    cases h : e.onBehalfOf with
    | none =>
      rw [List.filterMap_cons_none (by simp [h, capacityEntry?]),
        List.filter_cons_of_neg (by simp [h])]
      exact ih
    | some c =>
      rw [List.filterMap_cons_some (by simp [h, capacityEntry?]; rfl),
        List.filter_cons_of_pos (by simp [h])]
      exact .cons ⟨c, h, rfl⟩ ih

theorem lines_methods (methods : List DeliveryMethod) :
    (methods.flatMap (methodBlocks style m)).filterMap Block.line? = [] := by
  rw [List.filterMap_flatMap, List.flatMap_eq_nil_iff]
  intro method _
  simp only [methodBlocks]
  split_ifs <;> rfl

/-- From the caption of the people represented on, the affidavit reads the caption, the list of
them, and then on from the number behind it. -/
theorem lines_from_represented :
    (affidavit style m).from "2." =
      ⟨some "2.", "The following persons received the documents on behalf of another person:"⟩
        :: listed (m.deliveries.filterMap capacityEntry?)
          ++ (affidavit style m).from "3." := by
  have entries := @dropWhile_listed "3." (by decide)
  simp [Section.from, Section.read, affidavit, List.filterMap_cons, lines_methods, entries]

theorem under?_represented :
    (affidavit style m).under? "2."
        "The following persons received the documents on behalf of another person:" =
      some (listed (m.deliveries.filterMap capacityEntry?)) :=
  Section.under?_eq (lines_from_represented style m) (by decide) isCaption_of_mem_listed

/-! ## Every delivery -/

/-- A document accounts for deliveries, each in its place. -/
structure AccountsFor (d : DocumentContent) (deliveries : List Delivery) : Prop where
  /-- Each method has one group of boxes. -/
  printed : ∀ method, (d.checkboxGroups.map CheckboxGroup.id).count (boxId method) = 1
  /-- Its box is checked exactly if there is a table of the method. -/
  box : ∀ method,
    d.Checks (boxId method) (boxId method) ↔ tableId method ∈ d.tables.map Table.id
  /-- There is one exactly if something was delivered by the method. -/
  table : ∀ method,
    tableId method ∈ d.tables.map Table.id ↔ ∃ e ∈ deliveries, e.method = method
  /-- The table tells of the deliveries by the method, row by row. -/
  rows : ∀ t ∈ d.tables, ∀ method, t.id = tableId method →
    List.Forall₂ Tells t.rows (deliveries.filter fun e => e.method = method)
  /-- Together the tables have as many rows as there are deliveries. -/
  count : (d.tables.flatMap Table.rows).length = deliveries.length
  /-- Receipts are confirmed in one group of boxes, or in none without electronic deliveries. -/
  confirmation : (d.checkboxGroups.map CheckboxGroup.id).count "electronic_acknowledged" =
    if ∃ e ∈ deliveries, e.method = .electronic then 1 else 0
  /-- They are confirmed exactly if each electronic delivery was acknowledged. -/
  confirmed : d.Checks "electronic_acknowledged" "electronic_acknowledged" ↔
    (∃ e ∈ deliveries, e.method = .electronic)
      ∧ ∀ e ∈ deliveries, e.method = .electronic → e.acknowledged = true
  /-- The second paragraph lists the deliveries with a capacity, in order. -/
  represented : ∃ affidavit entries, d.section? "affidavit" = some affidavit
    ∧ affidavit.under? "2."
        "The following persons received the documents on behalf of another person:" =
      some (listed entries)
    ∧ List.Forall₂ Represents entries (deliveries.filter fun e => e.onBehalfOf.isSome)

end DeliveryAffidavit

open DeliveryAffidavit in
/-- The affidavit of delivery accounts for every delivery of the estate. -/
theorem EstateModel.deliveries_accounted_for (m : EstateModel) (style : StyleProfile) :
    AccountsFor (m.document style .deliveryAffidavit) m.deliveries where
  printed method := by
    rw [DocumentContent.count_eq_length_groupsNamed]
    exact congrArg List.length (groupsNamed_boxId style m method)
  box method := (checks_boxId_iff style m method).trans (tableId_mem_iff style m method).symm
  table method := (tableId_mem_iff style m method).trans (m.deliveriesBy_ne_nil_iff method)
  rows t ht method named := by
    obtain ⟨other, used, rfl⟩ := List.mem_map.mp (tables_document style m ▸ ht)
    obtain rfl : other = method := tableId_injective named
    exact tells_methodTable style m other
  count := length_rows style m
  confirmation := by
    have confirmation := groupsNamed_acknowledged style m
    simp only [← m.deliveriesBy_ne_nil_iff]
    rw [DocumentContent.count_eq_length_groupsNamed, document, confirmation]
    split_ifs <;> first | rfl | contradiction
  confirmed := by
    refine (checks_acknowledged_iff style m).trans
      (and_congr (m.deliveriesBy_ne_nil_iff .electronic) ?_)
    simp [EstateModel.deliveriesBy]
  represented := ⟨affidavit style m, m.deliveries.filterMap capacityEntry?, rfl,
    under?_represented style m, represents_entries m.deliveries⟩

end EstateFiling
