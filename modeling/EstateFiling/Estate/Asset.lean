import EstateFiling.Json.Scalars

/-!
# Assets

What the estate owns, in five collections.  The property inside the province is
real, tangible or intangible; the first two kinds may carry a secured debt.
The property outside is real or personal and carries a value only.
The totals of the collections are in `EstateFiling.Estate.Totals`.
-/

namespace EstateFiling

/-! ## Items -/

/-- A debt secured by an asset. -/
structure SecuredDebt where
  /-- The creditor. -/
  creditor : String := ""
  /-- The amount owed. -/
  amount : Money := Money.zero
deriving DecidableEq, Inhabited

namespace SecuredDebt

/-- A secured debt as data. -/
def toJson (d : SecuredDebt) : Json :=
  .object [("creditor", .string d.creditor), ("amount", d.amount.toJson)]

/-- Decodes a secured debt. -/
def decode : Json.Decoder SecuredDebt := Json.decodeRecord {}
  [.string "creditor" (fun r x => { r with creditor := x }),
    .withDefault "amount" Money.decode (fun r x => { r with amount := x })]

end SecuredDebt

/-- An asset that may carry a secured debt. -/
structure SecuredAsset where
  /-- What it is. -/
  description : String := ""
  /-- What it is worth. -/
  value : Money := Money.zero
  /-- The debt it secures. -/
  securedDebt : Option SecuredDebt := none
deriving DecidableEq, Inhabited

namespace SecuredAsset

/-- The amount of the secured debt, zero when there is none. -/
def securedAmount (a : SecuredAsset) : Money :=
  match a.securedDebt with
  | some debt => debt.amount
  | none => Money.zero

/-- An asset as data. -/
def toJson (a : SecuredAsset) : Json :=
  .object [("description", .string a.description), ("value", a.value.toJson),
    ("secured_debt", .optional SecuredDebt.toJson a.securedDebt)]

/-- Decodes an asset. -/
def decode : Json.Decoder SecuredAsset := Json.decodeRecord {}
  [.string "description" (fun r x => { r with description := x }),
    .withDefault "value" Money.decode (fun r x => { r with value := x }),
    .optional "secured_debt" SecuredDebt.decode (fun r x => { r with securedDebt := x })]

end SecuredAsset

/-- An asset with a value only. -/
structure Asset where
  /-- What it is. -/
  description : String := ""
  /-- What it is worth. -/
  value : Money := Money.zero
deriving DecidableEq, Inhabited

namespace Asset

/-- An asset as data. -/
def toJson (a : Asset) : Json :=
  .object [("description", .string a.description), ("value", a.value.toJson)]

/-- Decodes an asset. -/
def decode : Json.Decoder Asset := Json.decodeRecord {}
  [.string "description" (fun r x => { r with description := x }),
    .withDefault "value" Money.decode (fun r x => { r with value := x })]

end Asset

/-! ## Collections -/

/-- The names of the five collections. -/
inductive AssetCategory where
  /-- Real property. -/
  | realProperty
  /-- Tangible personal property. -/
  | tangibleProperty
  /-- Intangible personal property. -/
  | intangibleProperty
  /-- Real property outside the province. -/
  | outsideRealProperty
  /-- Personal property outside the province. -/
  | outsidePersonalProperty
deriving DecidableEq, Repr, Inhabited

namespace AssetCategory

/-- Every category, in the order of the printed form. -/
def all : List AssetCategory :=
  [.realProperty, .tangibleProperty, .intangibleProperty, .outsideRealProperty,
    .outsidePersonalProperty]

/-- The name of a category. -/
def key : AssetCategory → String
  | .realProperty => "real_property"
  | .tangibleProperty => "tangible_property"
  | .intangibleProperty => "intangible_property"
  | .outsideRealProperty => "outside_real_property"
  | .outsidePersonalProperty => "outside_personal_property"

/-- Reads a category as records spell it: trimmed, in any case, with blanks or
hyphens for underscores, and with some shorter and longer names. -/
def parse? (raw : String) : Option AssetCategory :=
  match Text.replaceChars (fun c => c == ' ' || c == '-') '_' (Text.lower (Text.trim raw)) with
  | "real" | "real_property" => some .realProperty
  | "tangible" | "tangible_property" | "tangible_personal_property" | "personal_property" =>
      some .tangibleProperty
  | "intangible" | "intangible_property" | "intangible_personal_property" =>
      some .intangibleProperty
  | "outside_real" | "outside_real_property" => some .outsideRealProperty
  | "outside_personal" | "outside_personal_property" => some .outsidePersonalProperty
  | _ => none

end AssetCategory

/-- What the estate owns. -/
structure AssetSchedule where
  /-- Real property. -/
  realProperty : List SecuredAsset := []
  /-- Tangible personal property. -/
  tangibleProperty : List SecuredAsset := []
  /-- Intangible personal property. -/
  intangibleProperty : List Asset := []
  /-- Real property outside the province. -/
  outsideRealProperty : List Asset := []
  /-- Personal property outside the province. -/
  outsidePersonalProperty : List Asset := []
deriving DecidableEq, Inhabited

namespace AssetSchedule

/-- Whether anything is outside the province. -/
def hasOutsideProperty (s : AssetSchedule) : Bool :=
  !s.outsideRealProperty.isEmpty || !s.outsidePersonalProperty.isEmpty

/-- The collections of two schedules, one after the other. -/
def append (s t : AssetSchedule) : AssetSchedule :=
  { realProperty := s.realProperty ++ t.realProperty
    tangibleProperty := s.tangibleProperty ++ t.tangibleProperty
    intangibleProperty := s.intangibleProperty ++ t.intangibleProperty
    outsideRealProperty := s.outsideRealProperty ++ t.outsideRealProperty
    outsidePersonalProperty := s.outsidePersonalProperty ++ t.outsidePersonalProperty }

instance : Append AssetSchedule := ⟨append⟩

/-- A schedule as data. -/
def toJson (s : AssetSchedule) : Json :=
  .object [("real_property", .array (s.realProperty.map SecuredAsset.toJson)),
    ("tangible_property", .array (s.tangibleProperty.map SecuredAsset.toJson)),
    ("intangible_property", .array (s.intangibleProperty.map Asset.toJson)),
    ("outside_real_property", .array (s.outsideRealProperty.map Asset.toJson)),
    ("outside_personal_property", .array (s.outsidePersonalProperty.map Asset.toJson))]

/-- Decodes a schedule. -/
def decode : Json.Decoder AssetSchedule := Json.decodeRecord {}
  [.list "real_property" SecuredAsset.decode (fun r x => { r with realProperty := x }),
    .list "tangible_property" SecuredAsset.decode (fun r x => { r with tangibleProperty := x }),
    .list "intangible_property" Asset.decode (fun r x => { r with intangibleProperty := x }),
    .list "outside_real_property" Asset.decode (fun r x => { r with outsideRealProperty := x }),
    .list "outside_personal_property" Asset.decode
      (fun r x => { r with outsidePersonalProperty := x })]

end AssetSchedule

end EstateFiling
