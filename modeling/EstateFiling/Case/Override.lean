import EstateFiling.Case.Schedule
import EstateFiling.Number.Shortest

/-!
# Manual overrides

Values entered by hand, each under the name of the field it replaces.  They are
kept in the order of their names.  A value is read by the getter for the type of
its field; null, and a value that the getter cannot read, count as not entered.
-/

namespace EstateFiling

/-- Values entered by hand under the names of the fields they replace. -/
structure ManualOverrides where
  /-- The names with their values, in the order of the names. -/
  entries : List (String × Json) := []
deriving Inhabited

namespace ManualOverrides

/-! ## Entries -/

/-- Enters a value. -/
def insert (o : ManualOverrides) (key : String) (value : Json) : ManualOverrides :=
  ⟨Json.insertMember key value o.entries⟩

/-- The names. -/
def keys (o : ManualOverrides) : List String := o.entries.map Prod.fst

/-- Whether nothing was entered. -/
def isEmpty (o : ManualOverrides) : Bool := o.entries.isEmpty

/-- Leaves out what was entered under a name. -/
def erase (o : ManualOverrides) (key : String) : ManualOverrides :=
  ⟨o.entries.filter (fun e => e.1 != key)⟩

/-- What was entered under a name, unless it is null. -/
def get? (o : ManualOverrides) (key : String) : Option Json :=
  (o.entries.lookup key).filter (fun j => !j.isNull)

/-- The overrides as data. -/
def toJson (o : ManualOverrides) : Json := .object o.entries

/-- Decodes overrides, which are always written as an object. -/
def decode : Json.Decoder ManualOverrides
  | .object members closed => do
      let value ← Json.decodeAny (.object members closed)
      .ok ⟨value.object?.getD []⟩
  | s => .error s.refusal

/-! ## Loose readings -/

/-- A text or the text of a number. -/
def textOf? : Json → Option String
  | .string s => some s
  | .number n => some n.text
  | _ => none

/-- A truth value in one of the usual spellings. -/
def flagOf? : Json → Option Bool
  | .bool b => some b
  | .string s =>
      match Text.lower (Text.trim s) with
      | "true" | "yes" | "y" | "1" => some true
      | "false" | "no" | "n" | "0" => some false
      | _ => none
  | .number n =>
      match n.natural? with
      | some 1 => some true
      | some 0 => some false
      | _ => none
  | _ => none

/-- A 32-bit natural or the text of one. -/
def countOf? : Json → Option UInt32
  | .number n => do
      let n ← n.natural?
      if n < 0x100000000 then some (UInt32.ofNat n) else none
  | .string s => (Text.boundedNat? 0x100000000 (Text.trimChars s.toList)).map UInt32.ofNat
  | _ => none

/-- A text that is a date of a record. -/
def dateOf? (j : Json) : Option Date := j.string?.bind Date.ofRecord?

/-! ## Getters -/

/-- The text entered under a name. -/
def text? (o : ManualOverrides) (key : String) : Option String := (o.get? key).bind textOf?

/-- The truth value entered under a name. -/
def flag? (o : ManualOverrides) (key : String) : Option Bool := (o.get? key).bind flagOf?

/-- The count entered under a name. -/
def count? (o : ManualOverrides) (key : String) : Option UInt32 := (o.get? key).bind countOf?

/-- The date entered under a name. -/
def date? (o : ManualOverrides) (key : String) : Option Date := (o.get? key).bind dateOf?

/-- The amount entered under a name. -/
def money? (o : ManualOverrides) (key : String) : Option Money :=
  (o.get? key).bind Json.moneyAmount?

/-- The assets entered under a name. -/
def assets? (o : ManualOverrides) (key : String) : Option (List Asset) :=
  (o.get? key).bind OverrideLine.assets?

/-- The assets with debts entered under a name. -/
def securedAssets? (o : ManualOverrides) (key : String) : Option (List SecuredAsset) :=
  (o.get? key).bind OverrideLine.securedAssets?

/-- The value of a type entered under a name. -/
def value? {α : Type} (o : ManualOverrides) (key : String) (decode : Json.Decoder α) :
    Option α :=
  (o.get? key).bind (Json.decodeValue? decode)

end ManualOverrides

end EstateFiling
