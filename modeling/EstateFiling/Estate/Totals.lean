import EstateFiling.Estate.Asset

/-!
# Totals

The sums of an asset schedule: one for each collection, the debts secured on real
and tangible property, the gross value of everything, and the net value after
the secured debts.
-/

namespace EstateFiling

/-- The sums of an asset schedule. -/
@[ext]
structure EstateTotals where
  /-- Real property. -/
  real : Money
  /-- The debts secured by real property. -/
  realSecured : Money
  /-- Tangible personal property. -/
  tangible : Money
  /-- The debts secured by tangible personal property. -/
  tangibleSecured : Money
  /-- Intangible personal property. -/
  intangible : Money
  /-- Real property outside the province. -/
  outsideReal : Money
  /-- Personal property outside the province. -/
  outsidePersonal : Money
  /-- All secured debts. -/
  securedTotal : Money
  /-- The value of everything. -/
  gross : Money
  /-- The value of everything less the secured debts. -/
  net : Money
deriving DecidableEq

namespace EstateTotals

/-- The debts that assets secure. -/
def secured (assets : List SecuredAsset) : Money :=
  Money.sum ((assets.filterMap SecuredAsset.securedDebt).map SecuredDebt.amount)

/-- The totals of a schedule. -/
def ofSchedule (s : AssetSchedule) : EstateTotals :=
  let real := Money.sum (s.realProperty.map SecuredAsset.value)
  let tangible := Money.sum (s.tangibleProperty.map SecuredAsset.value)
  let intangible := Money.sum (s.intangibleProperty.map Asset.value)
  let outsideReal := Money.sum (s.outsideRealProperty.map Asset.value)
  let outsidePersonal := Money.sum (s.outsidePersonalProperty.map Asset.value)
  let securedTotal := secured s.realProperty + secured s.tangibleProperty
  let gross := Money.sum [real, tangible, intangible, outsideReal, outsidePersonal]
  { real := real
    realSecured := secured s.realProperty
    tangible := tangible
    tangibleSecured := secured s.tangibleProperty
    intangible := intangible
    outsideReal := outsideReal
    outsidePersonal := outsidePersonal
    securedTotal := securedTotal
    gross := gross
    net := gross - securedTotal }

/-- Totals as data. -/
def toJson (t : EstateTotals) : Json :=
  .object [("real", t.real.toJson), ("real_secured", t.realSecured.toJson),
    ("tangible", t.tangible.toJson), ("tangible_secured", t.tangibleSecured.toJson),
    ("intangible", t.intangible.toJson), ("outside_real", t.outsideReal.toJson),
    ("outside_personal", t.outsidePersonal.toJson), ("secured_total", t.securedTotal.toJson),
    ("gross", t.gross.toJson), ("net", t.net.toJson)]

end EstateTotals

end EstateFiling
