import EstateFiling.Json.Source

/-!
# Decoding records

A decoder takes what is written to a value of a type, or finds a fault.  It reads
in the order of the text and stops at the first fault.  A scalar has to be well
formed before its sort matters; a list or an object of the wrong sort is refused
where it starts.

A record is written either as an object or as the list of its fields in their
declared order.  In an object, members with names that are not the record's own
are passed over, flaws and all, and its own names may not be given twice.  From
the end of a list, fields may be missing, but it may not be longer than the
record.  A field is required, or has a default, or is optional; null stands for a
missing optional field.

A value of an enumeration is its name, alone or as the only member of an object
with the value null.
-/

namespace EstateFiling.Json

/-- Why a text does not hold a value of a type. -/
inductive Fault where
  /-- What is written is not well formed or stands for nothing. -/
  | malformed
  /-- What is written is of another type. -/
  | mistyped
deriving DecidableEq, Repr

/-- A decoder for a type. -/
abbrev Decoder (α : Type) := Source → Except Fault α

/-- The fault of a source that is none of what is asked for. -/
def Source.refusal : Source → Fault
  | .unreadable | .broken => .malformed
  | _ => .mistyped

/-- The value of a source, or the fault that there is none. -/
def found {α : Type} : Option α → Except Fault α
  | some a => .ok a
  | none => .error .mistyped

/-! ## Plain values -/

/-- Decodes a truth value. -/
def decodeBool : Decoder Bool
  | .bool b => .ok b
  | s => .error s.refusal

/-- Decodes a text. -/
def decodeString : Decoder String
  | .string text => .ok text
  | s => .error s.refusal

/-- Decodes an integer. -/
def decodeInteger : Decoder Int
  | .number n => found n.integer?
  | s => .error s.refusal

/-- Decodes a natural below a bound. -/
def decodeBounded (bound : Nat) : Decoder Nat := fun s => do
  let n ← decodeInteger s
  if 0 ≤ n && n < bound then .ok n.toNat else .error .mistyped

/-- Decodes a 16-bit natural. -/
def decodeUInt16 : Decoder UInt16 := fun s => do .ok (UInt16.ofNat (← decodeBounded 0x10000 s))

/-- Decodes a 32-bit natural. -/
def decodeUInt32 : Decoder UInt32 := fun s => do .ok (UInt32.ofNat (← decodeBounded 0x100000000 s))

/-- Decodes a value without flaws, members as they are given. -/
def decodeGiven : Decoder Json := fun s =>
  match s.json? with
  | some j => .ok j
  | none => .error .malformed

/-- Decodes any data value, in canonical form. -/
def decodeAny : Decoder Json := fun s => do .ok (← decodeGiven s).canonical

/-- Decodes a list, all of whose items must decode. -/
def decodeList {α : Type} (decode : Decoder α) : Decoder (List α)
  | .array items closed => do
      let values ← items.mapM decode
      if closed then .ok values else .error .malformed
  | s => .error s.refusal

/-- Decodes a value for which null stands for a missing one. -/
def decodeOption {α : Type} (decode : Decoder α) : Decoder (Option α)
  | .null => .ok none
  | s => do .ok (some (← decode s))

/-! ## Enumerations -/

/-- The name an enumeration's value is written with. -/
def decodeName : Decoder String
  | .string name => .ok name
  | .object [(some name, .null)] true => .ok name
  | s => .error s.refusal

/-- Decodes a value of an enumeration from its name. -/
def decodeEnum {α : Type} (values : List α) (name : α → String) : Decoder α := fun s => do
  let given ← decodeName s
  found (values.find? (fun a => name a == given))

/-! ## Records -/

/-- A field of a record. -/
structure Field (α : Type) where
  /-- The name. -/
  name : String
  /-- Whether the field must be given. -/
  isRequired : Bool
  /-- Decodes the field's value; the result puts it into a record. -/
  decode : Decoder (α → α)

namespace Field

variable {α β : Type}

/-- A field with a decoder for its value and a way to put it into a record. -/
def make (isRequired : Bool) (name : String) (decode : Decoder β) (put : α → β → α) : Field α :=
  ⟨name, isRequired, fun s => do
    let value ← decode s
    .ok (fun record => put record value)⟩

/-- A field that must be given. -/
def required (name : String) (decode : Decoder β) (put : α → β → α) : Field α :=
  make true name decode put

/-- A field that keeps its default when it is not given. -/
def withDefault (name : String) (decode : Decoder β) (put : α → β → α) : Field α :=
  make false name decode put

/-- An optional field. -/
def optional (name : String) (decode : Decoder β) (put : α → Option β → α) : Field α :=
  withDefault name (decodeOption decode) put

/-- A text with a default. -/
def string (name : String) (put : α → String → α) : Field α := withDefault name decodeString put

/-- An optional text. -/
def optionalString (name : String) (put : α → Option String → α) : Field α :=
  optional name decodeString put

/-- A truth value with a default. -/
def bool (name : String) (put : α → Bool → α) : Field α := withDefault name decodeBool put

/-- An optional truth value. -/
def optionalBool (name : String) (put : α → Option Bool → α) : Field α :=
  optional name decodeBool put

/-- A list with a default. -/
def list (name : String) (decode : Decoder β) (put : α → List β → α) : Field α :=
  withDefault name (decodeList decode) put

/-- A list of texts with a default. -/
def strings (name : String) (put : α → List String → α) : Field α := list name decodeString put

end Field

section Records

variable {α : Type}

/-- Puts members into a record in the order of the text, with the names that have
been given; the result has the names of all. -/
def readMembers (fields : List (Field α)) :
    List String → α → List (Option String × Source) → Except Fault (List String × α)
  | given, record, [] => .ok (given, record)
  | _, _, (none, _) :: _ => .error .malformed
  | given, record, (some name, value) :: members =>
      match fields.find? (fun f => f.name == name) with
      | none => readMembers fields given record members
      | some field =>
          if given.contains name then .error .mistyped
          else do
            let put ← field.decode value
            readMembers fields (name :: given) (put record) members

/-- Puts items into a record in the order of its fields; the result has the fields
that are left. -/
def readItems : List (Field α) → α → List Source → Except Fault (List (Field α) × α)
  | fields, record, [] => .ok (fields, record)
  | [], _, _ :: _ => .error .malformed
  | field :: fields, record, value :: items => do
      let put ← field.decode value
      readItems fields (put record) items

/-- The record, if what holds it is closed and no required field is missing. -/
def whole (record : α) (closed : Bool) (missing : List (Field α)) : Except Fault α :=
  if !closed then .error .malformed
  else if missing.any Field.isRequired then .error .mistyped
  else .ok record

/-- Decodes a record from the values it has to start with and its fields. -/
def decodeRecord (start : α) (fields : List (Field α)) : Decoder α
  | .object members closed => do
      let (given, record) ← readMembers fields [] start members
      whole record closed (fields.filter (fun f => !given.contains f.name))
  | .array items closed => do
      let (left, record) ← readItems fields start items
      whole record closed left
  | s => .error s.refusal

end Records

/-! ## Texts and values -/

/-- Decodes the value at the front of a text; what follows it does not matter. -/
def decodeFront {α : Type} (decode : Decoder α) (text : String) : Except Fault α :=
  decode (Source.ofString text).1

/-- Decodes a text that holds one value and nothing else. -/
def decodeText {α : Type} (decode : Decoder α) (text : String) : Except Fault α := do
  let (source, rest) := Source.ofString text
  let value ← decode source
  if rest.isEmpty then .ok value else .error .malformed

/-- Decodes a data value. -/
def decodeValue? {α : Type} (decode : Decoder α) (j : Json) : Option α :=
  (decode j.source).toOption

/-- Reads a text that holds exactly one value. -/
def ofString? (text : String) : Option Json := (decodeText decodeGiven text).toOption

end EstateFiling.Json
