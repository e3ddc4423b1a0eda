import EstateFiling.Estate.Totals
import EstateFiling.Form.Deponents

/-!
# Affidavit of assets and liabilities

Form P10, sworn by all applicants together.  Exhibit A lists the property in the
province and sums up the estate; Exhibit B lists the property outside, if there
is any.  Every printed sum is one of the estate's totals.
-/

namespace EstateFiling.AssetsAffidavit

/-! ## Clauses -/

/-- Whether the deceased was domiciled in the province. -/
def domicile : ClauseTable EstateModel where
  group := "domicile"
  fallback := "not_domiciled"
  clauses := [⟨"domiciled", fun m => m.deceased.domiciledInJurisdiction⟩]

/-- Whether there is property outside the province. -/
def outsideProperty : ClauseTable EstateModel where
  group := "outside_property"
  fallback := "no_outside"
  clauses := [⟨"has_outside", fun m => m.assets.hasOutsideProperty⟩]

/-! ## Tables -/

/-- A row of a table. -/
def row (cells : List String) : TableRow := ⟨cells, false⟩

/-- A row with a total. -/
def totalRow (cells : List String) : TableRow := ⟨cells, true⟩

/-- The row of an asset that may carry a debt. -/
def securedRow (a : SecuredAsset) : TableRow :=
  row ([Filler.orDots a.description 30, a.value.currency]
    ++ (match a.securedDebt with
      | some debt => [Filler.orDots debt.creditor 20, debt.amount.currency]
      | none => ["", ""]))

/-- The row of an asset with a value only. -/
def valueRow (a : Asset) : TableRow := row [Filler.orDots a.description 30, a.value.currency]

/-- The rows of a collection, or a row that says that there are none, and the
total. -/
def totalled (rows : List TableRow) (blank : List String) (total : List String) :
    List TableRow :=
  (if rows.isEmpty then [row (Compose.noneText :: blank)] else rows)
    ++ [totalRow ("Subtotal" :: total)]

/-- The table of a collection of assets that may carry debts. -/
def securedTable (style : StyleProfile) (category : AssetCategory) (assets : List SecuredAsset)
    (total secured : Money) : Block :=
  Compose.table style category.key
    ["Description", "Value at date of death", "Secured creditor", "Secured amount"]
    (totalled (assets.map securedRow) ["", "", ""] [total.currency, "", secured.currency])

/-- The table of a collection of assets with values only. -/
def valueTable (style : StyleProfile) (category : AssetCategory) (assets : List Asset)
    (total : Money) : Block :=
  Compose.table style category.key ["Description", "Value at date of death"]
    (totalled (assets.map valueRow) [""] [total.currency])

/-- The rows that sum the estate up. -/
def summaryRows (s : AssetSchedule) : List TableRow :=
  let totals := EstateTotals.ofSchedule s
  [row ["Real property", totals.real.currency],
    row ["Tangible personal property", totals.tangible.currency],
    row ["Intangible personal property", totals.intangible.currency]]
  ++ (if s.hasOutsideProperty then
      [row ["Property outside British Columbia (Exhibit B)",
        (totals.outsideReal + totals.outsidePersonal).currency]]
    else [])
  ++ [totalRow ["Gross value", totals.gross.currency],
    row ["Less secured debts", totals.securedTotal.currency],
    totalRow ["Net value", totals.net.currency]]

/-! ## Sections -/

/-- The title. -/
def title : String := "AFFIDAVIT OF ASSETS AND LIABILITIES FOR DOMICILED ESTATE GRANT"

/-- The wording of the domicile. -/
def domicileOptions (m : EstateModel) : List (String × String) :=
  [("domiciled",
      Form.deceasedName m
        ++ " was ordinarily resident in British Columbia at the date of death."),
    ("not_domiciled",
      Form.deceasedName m
        ++ " was not ordinarily resident in British Columbia at the date of death, but was "
        ++ "ordinarily resident in " ++ Filler.dots 20 ++ ".")]

/-- The wording of the property outside the province. -/
def outsideOptions : List (String × String) :=
  [("has_outside",
      "The deceased had property outside British Columbia, described in Exhibit B."),
    ("no_outside", "The deceased had no property outside British Columbia.")]

/-- The affidavit. -/
def affidavit (style : StyleProfile) (m : EstateModel) : Section where
  id := "affidavit"
  heading := none
  blocks :=
    let d := Deponents.together m
    let totals := EstateTotals.ofSchedule m.assets
    Form.affidavitOpening style m "P10" title d
      ++ [Compose.numbered style "1." "As to the domicile of the deceased:",
        Compose.passage style domicile m (domicileOptions m),
        Compose.numbered style "2."
          ("Attached as Exhibit A is a statement of all property of the deceased, irrespective "
            ++ "of its nature, location or value, that passes to the applicant in that "
            ++ "capacity. The gross value of that property is " ++ totals.gross.currency
            ++ " and the net value, after deducting secured debts of "
            ++ totals.securedTotal.currency ++ ", is " ++ totals.net.currency ++ "."),
        Compose.numbered style "3." "As to property outside British Columbia:",
        Compose.passage style outsideProperty m outsideOptions,
        Compose.numbered style "4."
          (d.pronoun ++ " will deliver to the registry an affidavit of any property or debt of "
            ++ "the deceased discovered after this affidavit is sworn."),
        Form.affidavitClose style d]

/-- The people whose affidavit an exhibit belongs to. -/
def exhibitNames (m : EstateModel) : String :=
  let names := (Deponents.together m).names
  if names.isEmpty then Filler.dots 30 else Text.join ", " names

/-- The property in the province and the sums of the estate. -/
def exhibitA (style : StyleProfile) (m : EstateModel) : Section where
  id := "exhibit_a"
  heading := some "EXHIBIT A: STATEMENT OF ASSETS"
  blocks :=
    let totals := EstateTotals.ofSchedule m.assets
    Form.exhibitCertificate style "A" (exhibitNames m)
      ++ [Compose.heading style "Part I: Real property in British Columbia",
        securedTable style .realProperty m.assets.realProperty totals.real totals.realSecured,
        Compose.heading style "Part II: Tangible personal property in British Columbia",
        securedTable style .tangibleProperty m.assets.tangibleProperty totals.tangible
          totals.tangibleSecured,
        Compose.heading style "Part III: Intangible personal property",
        valueTable style .intangibleProperty m.assets.intangibleProperty totals.intangible,
        Compose.heading style "Summary",
        Compose.table style "estate_summary" ["", "Amount"] (summaryRows m.assets)]

/-- The property outside the province. -/
def exhibitB (style : StyleProfile) (m : EstateModel) : Section where
  id := "exhibit_b"
  heading := some "EXHIBIT B: PROPERTY OUTSIDE BRITISH COLUMBIA"
  blocks :=
    let totals := EstateTotals.ofSchedule m.assets
    Form.exhibitCertificate style "B" (exhibitNames m)
      ++ [Compose.heading style "Real property outside British Columbia",
        valueTable style .outsideRealProperty m.assets.outsideRealProperty totals.outsideReal,
        Compose.heading style "Personal property outside British Columbia",
        valueTable style .outsidePersonalProperty m.assets.outsidePersonalProperty
          totals.outsidePersonal]

/-- The affidavit of assets of an estate. -/
def document (style : StyleProfile) (m : EstateModel) : DocumentContent where
  kind := .assetsAffidavit
  title := title
  style := style
  sections := [affidavit style m, exhibitA style m]
    ++ (if m.assets.hasOutsideProperty then [exhibitB style m] else [])

end EstateFiling.AssetsAffidavit
