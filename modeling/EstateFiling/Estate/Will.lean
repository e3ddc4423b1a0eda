import EstateFiling.Json.Scalars

/-!
# Wills

What is known of the will: whether there is one, when and where it was signed, in
what state it is, its codicils, and for an electronic will whether a copy was
demanded and who received one.
-/

namespace EstateFiling

/-- A codicil. -/
structure Codicil where
  /-- The date of signing. -/
  signedOn : Option Date := none
deriving DecidableEq, Inhabited

namespace Codicil

/-- A codicil as data. -/
def toJson (c : Codicil) : Json := .object [("signed_on", .optional Date.toJson c.signedOn)]

/-- Decodes a codicil. -/
def decode : Json.Decoder Codicil := Json.decodeRecord {}
  [.optional "signed_on" Date.decode (fun r x => { r with signedOn := x })]

end Codicil

/-- The demand for a copy of an electronic will. -/
structure ElectronicWillDemand where
  /-- Whether a copy was demanded. -/
  demanded : Bool := false
  /-- The people who received one. -/
  providedTo : List String := []
deriving DecidableEq, Repr, Inhabited

namespace ElectronicWillDemand

/-- A demand as data. -/
def toJson (d : ElectronicWillDemand) : Json :=
  .object [("demanded", .bool d.demanded), ("provided_to", .strings d.providedTo)]

/-- Decodes a demand. -/
def decode : Json.Decoder ElectronicWillDemand := Json.decodeRecord {}
  [.bool "demanded" (fun r x => { r with demanded := x }),
    .strings "provided_to" (fun r x => { r with providedTo := x })]

end ElectronicWillDemand

/-- A will. -/
structure Will where
  /-- Whether there is a will at all. -/
  present : Bool := false
  /-- The date of signing. -/
  signedOn : Option Date := none
  /-- The place of signing. -/
  signedAt : String := ""
  /-- Whether the will is in electronic form. -/
  electronic : Bool := false
  /-- Whether the signed original is at hand. -/
  originalAvailable : Bool := false
  /-- The codicils. -/
  codicils : List Codicil := []
  /-- Whether the will was altered. -/
  hasAlterations : Bool := false
  /-- Whether words of the will were made illegible. -/
  hasObliterations : Bool := false
  /-- The documents the will refers to. -/
  referencedDocuments : List String := []
  /-- Whether the will has to be translated. -/
  translationRequired : Bool := false
  /-- The demand for a copy of an electronic will. -/
  electronicDemand : ElectronicWillDemand := {}
deriving DecidableEq, Inhabited

namespace Will

/-- A will as data. -/
def toJson (w : Will) : Json :=
  .object [("exists", .bool w.present), ("signed_on", .optional Date.toJson w.signedOn),
    ("signed_at", .string w.signedAt), ("electronic", .bool w.electronic),
    ("original_available", .bool w.originalAvailable),
    ("codicils", .array (w.codicils.map Codicil.toJson)),
    ("has_alterations", .bool w.hasAlterations),
    ("has_obliterations", .bool w.hasObliterations),
    ("referenced_documents", .strings w.referencedDocuments),
    ("translation_required", .bool w.translationRequired),
    ("electronic_demand", w.electronicDemand.toJson)]

/-- Decodes a will. -/
def decode : Json.Decoder Will := Json.decodeRecord {}
  [.bool "exists" (fun r x => { r with present := x }),
    .optional "signed_on" Date.decode (fun r x => { r with signedOn := x }),
    .string "signed_at" (fun r x => { r with signedAt := x }),
    .bool "electronic" (fun r x => { r with electronic := x }),
    .bool "original_available" (fun r x => { r with originalAvailable := x }),
    .list "codicils" Codicil.decode (fun r x => { r with codicils := x }),
    .bool "has_alterations" (fun r x => { r with hasAlterations := x }),
    .bool "has_obliterations" (fun r x => { r with hasObliterations := x }),
    .strings "referenced_documents" (fun r x => { r with referencedDocuments := x }),
    .bool "translation_required" (fun r x => { r with translationRequired := x }),
    .withDefault "electronic_demand" ElectronicWillDemand.decode
      (fun r x => { r with electronicDemand := x })]

end Will

end EstateFiling
