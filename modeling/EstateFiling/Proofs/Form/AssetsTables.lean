import EstateFiling.Proofs.Case.Totals
import EstateFiling.Proofs.Document.Tables
import EstateFiling.Proofs.Form.Boxes

/-!
# Tables of the affidavit of assets

The affidavit of assets prints the same sums in several places: under each table,
in the summary and in its second paragraph.  `AssetsAffidavit.Agrees` says what
somebody finds who reads the amounts back off the page and adds them up again.
It holds of every estate without an amount below zero
(`EstateModel.document_assetsAffidavit_agrees`).

*Tables.*  `AssetsAffidavit.tables_document` is the exact list of tables.  The
table of a collection lists its items (`AssetsAffidavit.lists_collectionTable`).

*Summary.*  Its entries add up to the gross value, whether the property outside the
province has an entry or not (`AssetsAffidavit.sum_summaryEntries`).
-/

namespace EstateFiling

/-! ## Collections -/

namespace AssetCategory

/-- Whether the items of a collection may carry debts. -/
def carriesDebts : AssetCategory → Bool
  | .realProperty | .tangibleProperty => true
  | _ => false

/-- Whether a collection is outside the province. -/
def isOutside : AssetCategory → Bool
  | .outsideRealProperty | .outsidePersonalProperty => true
  | _ => false

/-- The columns of a collection's table that hold amounts: the values and, where
the items may carry debts, the debts. -/
def amountColumns (c : AssetCategory) : List Nat := if c.carriesDebts then [1, 3] else [1]

end AssetCategory

/-- Something is outside the province. -/
def AssetSchedule.OutsideItems (s : AssetSchedule) : Prop :=
  s.outsideRealProperty ≠ [] ∨ s.outsidePersonalProperty ≠ []

theorem AssetSchedule.hasOutsideProperty_iff (s : AssetSchedule) :
    s.hasOutsideProperty = true ↔ s.OutsideItems := by
  unfold hasOutsideProperty OutsideItems
  rw [Bool.or_eq_true, Bool.not_eq_true', Bool.not_eq_true', List.isEmpty_eq_false_iff,
    List.isEmpty_eq_false_iff]

namespace Form

variable (style : StyleProfile) (number : String)

theorem statements_affidavitOpening (m : EstateModel) (form title : String) (d : Deponents) :
    (affidavitOpening style m form title d).filterMap (Block.statement? number) = [] := by
  have plain := Compose.statement?_runs style number
  refine List.filterMap_eq_nil_iff.mpr fun b hb => ?_
  simp only [affidavitOpening, courtCaption, List.cons_append, List.nil_append, List.mem_cons,
    List.not_mem_nil, or_false] at hb
  obtain rfl | rfl | rfl | rfl | rfl := hb <;> exact plain ..

theorem statement?_affidavitClose (d : Deponents) :
    (affidavitClose style d).statement? number = none := rfl

end Form

namespace AssetsAffidavit

variable (style : StyleProfile) (m : EstateModel) {s : AssetSchedule}

/-! ## The list of tables -/

/-- The rows of the items of a collection. -/
def itemRows (s : AssetSchedule) : AssetCategory → List TableRow
  | .realProperty => s.realProperty.map securedRow
  | .tangibleProperty => s.tangibleProperty.map securedRow
  | .intangibleProperty => s.intangibleProperty.map valueRow
  | .outsideRealProperty => s.outsideRealProperty.map valueRow
  | .outsidePersonalProperty => s.outsidePersonalProperty.map valueRow

/-- The headings of a collection's table. -/
def header (c : AssetCategory) : List String :=
  if c.carriesDebts then
    ["Description", "Value at date of death", "Secured creditor", "Secured amount"]
  else ["Description", "Value at date of death"]

/-- The subtotals under a collection's table. -/
def subtotals (s : AssetSchedule) (c : AssetCategory) : List String :=
  let value := (EstateTotals.ofSchedule s).subtotal c
  if c.carriesDebts then [value.currency, "", (EstateTotals.secured (s.items c)).currency]
  else [value.currency]

/-- The table of a collection. -/
def collectionTable (s : AssetSchedule) (c : AssetCategory) : Table where
  id := c.key
  header := header c
  rows := totalled (itemRows s c) (List.replicate ((header c).length - 1) "") (subtotals s c)
  size := style.smallSize

/-- The table that sums the estate up. -/
def summaryTable (s : AssetSchedule) : Table where
  id := "estate_summary"
  header := ["", "Amount"]
  rows := summaryRows s
  size := style.smallSize

/-- The tables of the affidavit, in order. -/
theorem tables_document :
    (document style m).tables =
      [collectionTable style m.assets .realProperty,
        collectionTable style m.assets .tangibleProperty,
        collectionTable style m.assets .intangibleProperty,
        summaryTable style m.assets]
      ++ (if m.assets.hasOutsideProperty then
          [collectionTable style m.assets .outsideRealProperty,
            collectionTable style m.assets .outsidePersonalProperty]
        else []) := by
  unfold DocumentContent.tables DocumentContent.blocks document
  rw [List.filterMap_flatMap, List.flatMap_append]
  split <;> rfl

/-! ## The table of a collection -/

/-- A row shows an item: what it is, what it is worth and the debt that it
secures, the amounts as they read back. -/
structure Shows (r : TableRow) (a : SecuredAsset) : Prop where
  /-- The first column says what the item is. -/
  description : r.cells.head? = some (Filler.orDots a.description 30)
  /-- The second column reads back to the value. -/
  value : r.amount? 1 = some a.value
  /-- The fourth column reads back to the debt, if there is one. -/
  debt : r.amount? 3 = a.securedDebt.map SecuredDebt.amount

theorem shows_securedRow {a : SecuredAsset} (h : NonNegative a.amounts) :
    Shows (securedRow a) a where
  description := rfl
  value := TableRow.amount?_of_cell rfl (h a.value List.mem_cons_self)
  debt := by
    unfold securedRow
    cases secures : a.securedDebt with
    | none => exact Money.parse?_empty
    | some debt => exact TableRow.amount?_of_cell rfl (SecuredAsset.nonneg_debt h secures)

theorem shows_valueRow {a : Asset} (h : NonNegative a.amounts) :
    Shows (valueRow a) a.unsecured where
  description := rfl
  value := TableRow.amount?_of_cell rfl (h a.value List.mem_cons_self)
  debt := rfl

/-- The rows of a collection show its items, one by one. -/
theorem forall₂_itemRows (h : NonNegative s.amounts) (c : AssetCategory) :
    List.Forall₂ Shows (itemRows s c) (s.items c) := by
  obtain ⟨real, tangible, intangible, outsideReal, outsidePersonal⟩ :=
    s.nonNegative_amounts_iff.mp h
  have secured : ∀ {as : List SecuredAsset}, (∀ a ∈ as, NonNegative a.amounts) →
      List.Forall₂ Shows (as.map securedRow) as := fun nonneg =>
    List.forall₂_map_left_iff.mpr
      (List.forall₂_same.mpr fun a ha => shows_securedRow (nonneg a ha))
  have plain : ∀ {as : List Asset}, (∀ a ∈ as, NonNegative a.amounts) →
      List.Forall₂ Shows (as.map valueRow) (as.map Asset.unsecured) := fun nonneg =>
    List.forall₂_map_left_iff.mpr (List.forall₂_map_right_iff.mpr
      (List.forall₂_same.mpr fun a ha => shows_valueRow (nonneg a ha)))
  cases c with
  | realProperty => exact secured real
  | tangibleProperty => exact secured tangible
  | intangibleProperty => exact plain intangible
  | outsideRealProperty => exact plain outsideReal
  | outsidePersonalProperty => exact plain outsidePersonal

/-- The rows of items are not totals. -/
theorem emphasis_itemRows (s : AssetSchedule) (c : AssetCategory) :
    ∀ r ∈ itemRows s c, r.emphasis = false := by
  cases c <;> exact List.forall_mem_map.mpr fun _ _ => rfl

theorem isEmpty_itemRows (s : AssetSchedule) (c : AssetCategory) :
    (itemRows s c).isEmpty = (s.items c).isEmpty := by
  cases c <;> simp only [itemRows, AssetSchedule.items, List.isEmpty_map]

/-- The body of a table with a total is what stands above the total. -/
theorem filter_totalled {rows : List TableRow} (plain : ∀ r ∈ rows, r.emphasis = false)
    (blank total : List String) :
    (totalled rows blank total).filter (fun r => !r.emphasis) =
      if rows.isEmpty then [row (Compose.noneText :: blank)] else rows := by
  have last : [totalRow ("Subtotal" :: total)].filter (fun r => !r.emphasis) = [] := rfl
  unfold totalled
  rw [List.filter_append, last, List.append_nil]
  split
  · rfl
  · exact List.filter_eq_self.mpr fun r hr => by rw [plain r hr]; rfl

theorem bodyRows_collectionTable (s : AssetSchedule) (c : AssetCategory) :
    (collectionTable style s c).bodyRows =
      if (s.items c).isEmpty then
        [row (Compose.noneText :: List.replicate ((header c).length - 1) "")]
      else itemRows s c := by
  unfold Table.bodyRows collectionTable
  rw [filter_totalled (emphasis_itemRows s c), isEmpty_itemRows]

/-- The subtotal of the values. -/
theorem lastAmount?_values (h : NonNegative s.amounts) (c : AssetCategory) :
    (collectionTable style s c).lastAmount? 1 = some (Money.sum (valuesOf (s.items c))) := by
  have cell : (totalRow ("Subtotal" :: subtotals s c)).cells[1]? =
      some ((EstateTotals.ofSchedule s).subtotal c).currency := by
    cases c <;> rfl
  unfold Table.lastAmount?
  rw [collectionTable, totalled, List.getLast?_concat, Option.bind_some,
    TableRow.amount?_of_cell cell (EstateTotals.subtotal_nonneg h c),
    EstateTotals.subtotal_ofSchedule]

/-- The subtotal of the debts. -/
theorem lastAmount?_debts (h : NonNegative s.amounts) {c : AssetCategory}
    (carries : c.carriesDebts = true) :
    (collectionTable style s c).lastAmount? 3 = some (Money.sum (debtsOf (s.items c))) := by
  have cell : (totalRow ("Subtotal" :: subtotals s c)).cells[3]? =
      some (EstateTotals.secured (s.items c)).currency := by
    unfold subtotals
    rw [if_pos carries]
    rfl
  unfold Table.lastAmount?
  rw [collectionTable, totalled, List.getLast?_concat, Option.bind_some,
    TableRow.amount?_of_cell cell (Money.sum_nonneg (AssetSchedule.nonNegative_debtsOf h c))]
  rfl

theorem forall₂_bodyRows (h : NonNegative s.amounts) {c : AssetCategory}
    (nonempty : s.items c ≠ []) :
    List.Forall₂ Shows (collectionTable style s c).bodyRows (s.items c) := by
  rw [bodyRows_collectionTable, if_neg (by rwa [List.isEmpty_iff])]
  exact forall₂_itemRows h c

theorem cells_bodyRows_of_empty {c : AssetCategory} (empty : s.items c = []) :
    (collectionTable style s c).bodyRows.map TableRow.cells =
      [Compose.noneText :: List.replicate ((header c).length - 1) ""] := by
  rw [bodyRows_collectionTable, if_pos (List.isEmpty_iff.mpr empty)]
  rfl

theorem amounts_values (h : NonNegative s.amounts) (c : AssetCategory) :
    (collectionTable style s c).amounts 1 = valuesOf (s.items c) := by
  rw [Table.amounts_eq_filterMap (by decide) (forall₂_bodyRows style h)
    (cells_bodyRows_of_empty style) fun _ _ shown => shown.value]
  exact congrFun (List.filterMap_eq_map (f := SecuredAsset.value)) _

theorem amounts_debts (h : NonNegative s.amounts) (c : AssetCategory) :
    (collectionTable style s c).amounts 3 = debtsOf (s.items c) := by
  rw [Table.amounts_eq_filterMap (by decide) (forall₂_bodyRows style h)
    (cells_bodyRows_of_empty style) fun _ _ shown => shown.debt]
  exact List.map_filterMap.symm

/-- The table of a collection lists its items and sums their amounts up. -/
theorem lists_collectionTable (h : NonNegative s.amounts) (c : AssetCategory) :
    (collectionTable style s c).Lists (s.items c) Shows c.amountColumns where
  each := forall₂_bodyRows style h
  blank := cells_bodyRows_of_empty style
  subtotal := by
    refine ⟨totalRow ("Subtotal" :: subtotals s c), ?_, rfl⟩
    rw [bodyRows_collectionTable, ← isEmpty_itemRows]
    rfl
  sums := by
    intro column hcolumn
    unfold AssetCategory.amountColumns at hcolumn
    split at hcolumn
    · rename_i carries
      obtain rfl | rfl := List.mem_pair.mp hcolumn
      · rw [lastAmount?_values style h, amounts_values style h]
      · rw [lastAmount?_debts style h carries, amounts_debts style h]
    · obtain rfl := List.mem_singleton.mp hcolumn
      rw [lastAmount?_values style h, amounts_values style h]

/-! ## The summary -/

/-- The label of the property outside the province. -/
def outsideLabel : String := "Property outside British Columbia (Exhibit B)"

/-- The entries of the collections in the province. -/
def insideEntries (s : AssetSchedule) : List (String × Money) :=
  let t := EstateTotals.ofSchedule s
  [("Real property", t.real), ("Tangible personal property", t.tangible),
    ("Intangible personal property", t.intangible)]

/-- The entry of everything outside. -/
def outsideEntry (s : AssetSchedule) : String × Money :=
  let t := EstateTotals.ofSchedule s
  (outsideLabel, t.outsideReal + t.outsidePersonal)

/-- What the summary adds up. -/
def summaryEntries (s : AssetSchedule) : List (String × Money) :=
  insideEntries s ++ (if s.hasOutsideProperty then [outsideEntry s] else [])

theorem mem_summaryEntries {entry : String × Money} :
    entry ∈ summaryEntries s ↔
      entry ∈ insideEntries s ∨ s.hasOutsideProperty = true ∧ entry = outsideEntry s := by
  rw [summaryEntries, List.mem_append, List.mem_ite_nil_right, List.mem_singleton]

/-- The row of an entry. -/
def entryRow (entry : String × Money) : TableRow := row [entry.1, entry.2.currency]

/-- The rows that close the summary. -/
def closingRows (gross secured : Money) : List TableRow :=
  [totalRow ["Gross value", gross.currency], row ["Less secured debts", secured.currency],
    totalRow ["Net value", (gross - secured).currency]]

theorem summaryRows_eq (s : AssetSchedule) :
    summaryRows s =
      (summaryEntries s).map entryRow
        ++ closingRows (EstateTotals.ofSchedule s).gross
          (EstateTotals.ofSchedule s).securedTotal := by
  unfold summaryRows summaryEntries
  cases s.hasOutsideProperty <;> rfl

theorem nonNegative_summaryEntries (h : NonNegative s.amounts) :
    NonNegative ((summaryEntries s).map Prod.snd) := by
  have collection : ∀ c : AssetCategory, 0 ≤ ((EstateTotals.ofSchedule s).subtotal c).cents :=
    EstateTotals.subtotal_nonneg h
  intro m hm
  obtain ⟨entry, hentry, rfl⟩ := List.mem_map.mp hm
  rcases mem_summaryEntries.mp hentry with inside | ⟨-, rfl⟩
  · simp only [insideEntries, List.mem_cons, List.not_mem_nil, or_false] at inside
    obtain rfl | rfl | rfl := inside
    · exact collection .realProperty
    · exact collection .tangibleProperty
    · exact collection .intangibleProperty
  · exact Money.add_nonneg (collection .outsideRealProperty) (collection .outsidePersonalProperty)

theorem amount?_entryRow {entry : String × Money} (h : 0 ≤ entry.2.cents) :
    (entryRow entry).amount? 1 = some entry.2 :=
  TableRow.amount?_of_cell rfl h

/-- The rows of entries read back. -/
theorem filterMap_amount?_entryRow {entries : List (String × Money)}
    (h : NonNegative (entries.map Prod.snd)) :
    (entries.map entryRow).filterMap (fun r => r.amount? 1) = entries.map Prod.snd := by
  induction entries with
  | nil => rfl
  | cons entry entries ih =>
    obtain ⟨first, rest⟩ := List.forall_mem_cons.mp h
    rw [List.map_cons, List.filterMap_cons, amount?_entryRow first, ih rest]
    rfl

/-- The entries add up to the gross value. -/
theorem sum_summaryEntries (h : NonNegative s.amounts) :
    Money.sum ((summaryEntries s).map Prod.snd) = (EstateTotals.ofSchedule s).gross := by
  set t := EstateTotals.ofSchedule s
  unfold summaryEntries
  cases outside : s.hasOutsideProperty with
  | true =>
    -- The last entry is a subtotal of two collections.
    have regrouped : Money.sum ([[t.real], [t.tangible], [t.intangible],
        [t.outsideReal, t.outsidePersonal]].map Money.sum) = t.gross := by
      refine Money.sum_map_sum fun ms hms m hm => ?_
      have hm : m ∈ AssetCategory.all.map t.subtotal := List.mem_flatten.mpr ⟨ms, hms, hm⟩
      obtain ⟨c, -, rfl⟩ := List.mem_map.mp hm
      exact EstateTotals.subtotal_nonneg h c
    rw [← regrouped]
    simp only [List.map_cons, List.map_nil, Money.sum_singleton, Money.sum_pair]
    rfl
  | false =>
    -- What has no entry is worth nothing.
    have empty : ¬ s.OutsideItems := by
      rw [← s.hasOutsideProperty_iff, outside]
      exact Bool.false_ne_true
    obtain ⟨noReal, noPersonal⟩ := not_or.mp empty
    have real : t.outsideReal = Money.zero :=
      EstateTotals.subtotal_eq_zero (c := .outsideRealProperty)
        (congrArg (List.map _) (not_not.mp noReal))
    have personal : t.outsidePersonal = Money.zero :=
      EstateTotals.subtotal_eq_zero (c := .outsidePersonalProperty)
        (congrArg (List.map _) (not_not.mp noPersonal))
    have gross : t.gross = Money.add (Money.add (Money.sum [t.real, t.tangible, t.intangible])
        t.outsideReal) t.outsidePersonal := rfl
    rw [gross, real, personal, Money.add_zero, Money.add_zero]
    rfl

/-- There is an entry for the property outside the province only if there is any. -/
theorem outsideLabel_iff (s : AssetSchedule) :
    (∃ r ∈ (summaryEntries s).map entryRow, r.cells.head? = some outsideLabel)
      ↔ s.OutsideItems := by
  have others : outsideLabel ∉ ["Real property", "Tangible personal property",
      "Intangible personal property"] := by decide
  rw [← s.hasOutsideProperty_iff]
  constructor
  · rintro ⟨r, hr, label⟩
    obtain ⟨entry, hentry, rfl⟩ := List.mem_map.mp hr
    rcases mem_summaryEntries.mp hentry with inside | ⟨outside, -⟩
    · have labelled : entry.1 = outsideLabel := Option.some.inj label
      exact absurd (List.mem_map_of_mem (f := Prod.fst) inside) (labelled ▸ others)
    · exact outside
  · intro outside
    exact ⟨entryRow (outsideEntry s),
      List.mem_map_of_mem (mem_summaryEntries.mpr (Or.inr ⟨outside, rfl⟩)), rfl⟩

/-! ## The second paragraph -/

/-- The second paragraph for a gross value and debts. -/
def statement (gross secured : Money) : String :=
  "2." ++ " "
    ++ ("Attached as Exhibit A is a statement of all property of the deceased, irrespective "
      ++ "of its nature, location or value, that passes to the applicant in that "
      ++ "capacity. The gross value of that property is " ++ gross.currency
      ++ " and the net value, after deducting secured debts of "
      ++ secured.currency ++ ", is " ++ (gross - secured).currency ++ ".")

theorem statements_affidavit :
    (affidavit style m).blocks.filterMap (Block.statement? "2.") =
      [statement (EstateTotals.ofSchedule m.assets).gross
        (EstateTotals.ofSchedule m.assets).securedTotal] := by
  have second : ∀ text,
      (Compose.numbered style "2." text).statement? "2." = some ("2." ++ " " ++ text) := by
    intro text
    rw [Compose.statement?_numbered, if_pos rfl]
  have other : ∀ number : String, number ≠ "2." → ∀ text,
      (Compose.numbered style number text).statement? "2." = none := by
    intro number different text
    rw [Compose.statement?_numbered, if_neg different]
  unfold affidavit
  simp only [List.filterMap_append, List.filterMap_cons, List.filterMap_nil, List.nil_append,
    Form.statements_affidavitOpening, Compose.statement?_passage, Form.statement?_affidavitClose,
    second, other "1." (by decide), other "3." (by decide), other "4." (by decide)]
  rfl

theorem statements_document :
    (document style m).statements "2." =
      [statement (EstateTotals.ofSchedule m.assets).gross
        (EstateTotals.ofSchedule m.assets).securedTotal] := by
  have exhibitA : (exhibitA style m).blocks.filterMap (Block.statement? "2.") = [] := rfl
  have exhibitB : (exhibitB style m).blocks.filterMap (Block.statement? "2.") = [] := rfl
  have rest : (if m.assets.hasOutsideProperty then [AssetsAffidavit.exhibitB style m]
      else []).flatMap (fun s => s.blocks.filterMap (Block.statement? "2.")) = [] := by
    split
    · rw [List.flatMap_singleton, exhibitB]
    · rfl
  rw [DocumentContent.statements_eq]
  unfold document
  rw [List.flatMap_append, rest, List.flatMap_cons, List.flatMap_cons, exhibitA,
    statements_affidavit]
  rfl

/-! ## What a reader finds -/

/-- A summary lists some amounts, then their sum as the gross value, the debts, and
the difference as the net value. -/
structure SumsUp (t : Table) (above : List TableRow) (gross secured : Money) : Prop where
  rows : t.rows = above ++ closingRows gross secured
  readable : ∀ r ∈ above, (r.amount? 1).isSome = true
  sum : Money.sum (above.filterMap fun r => r.amount? 1) = gross
  grossReads : Money.parse? gross.currency = some gross
  securedReads : Money.parse? secured.currency = some secured

theorem sumsUp_summaryTable (h : NonNegative s.amounts) :
    SumsUp (summaryTable style s) ((summaryEntries s).map entryRow)
      (EstateTotals.ofSchedule s).gross (EstateTotals.ofSchedule s).securedTotal where
  rows := summaryRows_eq s
  readable := by
    intro r hr
    obtain ⟨entry, hentry, rfl⟩ := List.mem_map.mp hr
    rw [amount?_entryRow (nonNegative_summaryEntries h entry.2 (List.mem_map_of_mem hentry))]
    rfl
  sum := by
    rw [filterMap_amount?_entryRow (nonNegative_summaryEntries h), sum_summaryEntries h]
  grossReads := Money.parse?_currency (EstateTotals.gross_nonneg h)
  securedReads := Money.parse?_currency (EstateTotals.securedTotal_nonneg h)

/-- The tables of a document list the assets of a schedule, and they agree with each
other and with the second paragraph. -/
structure Agrees (d : DocumentContent) (s : AssetSchedule) : Prop where
  /-- No two tables have the same identifier. -/
  distinct : (d.tables.map Table.id).Nodup
  /-- Every collection has a table, those outside the province only if one of them
  has an item. -/
  printed : ∀ c : AssetCategory,
    c.key ∈ d.tables.map Table.id ↔ (c.isOutside = true → s.OutsideItems)
  /-- The table of a collection lists its items. -/
  lists : ∀ t ∈ d.tables, ∀ c : AssetCategory,
    t.id = c.key → t.Lists (s.items c) Shows c.amountColumns
  /-- The summary adds up.  Its debts are the two subtotals of debts, and the second
  paragraph has its three amounts. -/
  summary : ∃ t above gross real tangible, d.table? "estate_summary" = some t
    ∧ d.subtotal? "real_property" 3 = some real
    ∧ d.subtotal? "tangible_property" 3 = some tangible
    ∧ SumsUp t above gross (real + tangible)
    ∧ ((∃ r ∈ above, r.cells.head? = some outsideLabel) ↔ s.OutsideItems)
    ∧ d.statements "2." = [statement gross (real + tangible)]
  /-- The second exhibit is there only if something is outside the province. -/
  exhibit : (d.section? "exhibit_b").isSome = true ↔ s.OutsideItems
  /-- The second exhibit holds the tables of the property outside. -/
  exhibitTables : ∀ e, d.section? "exhibit_b" = some e →
    (e.blocks.filterMap Block.table?).map Table.id =
      ["outside_real_property", "outside_personal_property"]
  /-- The box says whether something is outside the province. -/
  box : ∃ g, d.checkboxGroup? "outside_property" = some g
    ∧ (g.isChecked "has_outside" = true ↔ s.OutsideItems)

/-! ### Tables by identifier -/

theorem AssetCategory.key_injective : Function.Injective AssetCategory.key := by
  intro c c' same
  cases c <;> cases c' <;> first | rfl | exact absurd same (by decide)

theorem ids_document :
    (document style m).tables.map Table.id =
      ["real_property", "tangible_property", "intangible_property", "estate_summary"]
      ++ (if m.assets.hasOutsideProperty then
          ["outside_real_property", "outside_personal_property"]
        else []) := by
  rw [tables_document]
  split <;> rfl

theorem nodup_ids_document : ((document style m).tables.map Table.id).Nodup := by
  rw [ids_document]
  split <;> decide

theorem key_mem_ids_document (c : AssetCategory) :
    c.key ∈ (document style m).tables.map Table.id ↔
      (c.isOutside = true → m.assets.OutsideItems) := by
  rw [ids_document, ← m.assets.hasOutsideProperty_iff]
  cases m.assets.hasOutsideProperty <;> cases c <;> decide

theorem mem_tables_document {t : Table} (ht : t ∈ (document style m).tables) :
    t.id = "estate_summary" ∨ ∃ c, t = collectionTable style m.assets c := by
  rw [tables_document] at ht
  rcases List.mem_append.mp ht with inside | outside
  · simp only [List.mem_cons, List.not_mem_nil, or_false] at inside
    obtain rfl | rfl | rfl | rfl := inside
    · exact Or.inr ⟨_, rfl⟩
    · exact Or.inr ⟨_, rfl⟩
    · exact Or.inr ⟨_, rfl⟩
    · exact Or.inl rfl
  · split at outside
    · obtain rfl | rfl := List.mem_pair.mp outside
      · exact Or.inr ⟨_, rfl⟩
      · exact Or.inr ⟨_, rfl⟩
    · cases outside

theorem lists_of_id_eq_key (h : NonNegative m.assets.amounts) {t : Table}
    (ht : t ∈ (document style m).tables) {c : AssetCategory} (same : t.id = c.key) :
    t.Lists (m.assets.items c) Shows c.amountColumns := by
  rcases mem_tables_document style m ht with summary | ⟨c', rfl⟩
  · rw [summary] at same
    cases c <;> exact absurd same (by decide)
  · obtain rfl := AssetCategory.key_injective same
    exact lists_collectionTable style h c'

theorem table?_summary :
    (document style m).table? "estate_summary" = some (summaryTable style m.assets) := by
  unfold DocumentContent.table?
  rw [tables_document]
  rfl

theorem subtotal?_debts (h : NonNegative m.assets.amounts) {c : AssetCategory}
    (carries : c.carriesDebts = true) :
    (document style m).subtotal? c.key 3 = some (Money.sum (debtsOf (m.assets.items c))) := by
  have found : (document style m).table? c.key = some (collectionTable style m.assets c) := by
    unfold DocumentContent.table?
    rw [tables_document]
    cases c <;> first | rfl | cases carries
  unfold DocumentContent.subtotal?
  rw [found, Option.bind_some, lastAmount?_debts style h carries]

/-! ### The second exhibit -/

theorem section?_exhibitB :
    (document style m).section? "exhibit_b" =
      if m.assets.hasOutsideProperty then some (exhibitB style m) else none := by
  unfold DocumentContent.section? document
  split <;> rfl

theorem isSome_exhibitB_iff :
    ((document style m).section? "exhibit_b").isSome = true ↔ m.assets.OutsideItems := by
  rw [section?_exhibitB, ← m.assets.hasOutsideProperty_iff, Option.isSome_ite]

theorem ids_exhibitB {e : Section} (he : (document style m).section? "exhibit_b" = some e) :
    (e.blocks.filterMap Block.table?).map Table.id =
      ["outside_real_property", "outside_personal_property"] := by
  rw [section?_exhibitB] at he
  split at he
  · obtain rfl := Option.some.inj he
    rfl
  · cases he

theorem checkboxGroup?_outside :
    (document style m).checkboxGroup? "outside_property" =
      some (Compose.passageGroup style outsideProperty m outsideOptions) := by
  unfold DocumentContent.checkboxGroup?
  rw [checkboxGroups_document]
  rfl

theorem isChecked_outside :
    (Compose.passageGroup style outsideProperty m outsideOptions).isChecked "has_outside" = true
      ↔ m.assets.OutsideItems := by
  have shows : (Compose.passageGroup style outsideProperty m outsideOptions).Shows
      (outsideProperty.select m).active :=
    Compose.choiceGroup_shows_select style _ m ["has_outside", "no_outside"] rfl (by decide)
  have active : (outsideProperty.select m).active =
      if m.assets.hasOutsideProperty then "has_outside" else "no_outside" := by
    unfold ClauseTable.select ClauseTable.matching outsideProperty
    cases outside : m.assets.hasOutsideProperty <;> simp [outside]
  rw [← m.assets.hasOutsideProperty_iff]
  refine (shows.isChecked_iff "has_outside").trans ?_
  rw [active]
  cases m.assets.hasOutsideProperty <;> decide

end AssetsAffidavit

open AssetsAffidavit

/-- The affidavit of assets of every estate without an amount below zero agrees with
the assets and with itself. -/
theorem EstateModel.document_assetsAffidavit_agrees (style : StyleProfile) (m : EstateModel)
    (h : NonNegative m.assets.amounts) :
    Agrees (m.document style .assetsAffidavit) m.assets where
  distinct := nodup_ids_document style m
  printed := key_mem_ids_document style m
  lists := fun _ ht _ same => lists_of_id_eq_key style m h ht same
  summary :=
    ⟨summaryTable style m.assets, (summaryEntries m.assets).map entryRow,
      (EstateTotals.ofSchedule m.assets).gross, (EstateTotals.ofSchedule m.assets).realSecured,
      (EstateTotals.ofSchedule m.assets).tangibleSecured, table?_summary style m,
      subtotal?_debts style m h (c := .realProperty) rfl,
      subtotal?_debts style m h (c := .tangibleProperty) rfl,
      sumsUp_summaryTable style h, outsideLabel_iff m.assets, statements_document style m⟩
  exhibit := isSome_exhibitB_iff style m
  exhibitTables := fun _ he => ids_exhibitB style m he
  box := ⟨_, checkboxGroup?_outside style m, isChecked_outside style m⟩

/-- A mortgaged house, and a cabin outside the province. -/
def mortgagedHouse : EstateModel :=
  { assets :=
      { realProperty := [⟨"House", Money.clamp 90000000, some ⟨"Bank", Money.clamp 35000050⟩⟩]
        outsideRealProperty := [⟨"Cabin", Money.clamp 12500000⟩] } }

theorem mortgagedHouse_agrees :
    NonNegative mortgagedHouse.assets.amounts
    ∧ AssetsAffidavit.Agrees (mortgagedHouse.document .standard .assetsAffidavit)
        mortgagedHouse.assets :=
  have amounts : NonNegative mortgagedHouse.assets.amounts := by decide
  ⟨amounts, EstateModel.document_assetsAffidavit_agrees .standard mortgagedHouse amounts⟩

end EstateFiling
