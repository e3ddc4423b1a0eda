import EstateFiling.Number.Reading

/-!
# Data values

A data value is null, a truth value, a number, a text, a list or an object.  An
object is kept as the list of its members in the order they were given, so a
reader can see that a name was given twice.  `Json.canonical` is the value such
an object stands for where names matter and order does not: each name once, with
the value given last, in the order of the names.
-/

namespace EstateFiling

/-- A data value. -/
inductive Json where
  /-- Null. -/
  | null
  /-- A truth value. -/
  | bool (b : Bool)
  /-- A number. -/
  | number (n : Number)
  /-- A text. -/
  | string (s : String)
  /-- A list. -/
  | array (items : List Json)
  /-- The members of an object, in order. -/
  | object (members : List (String × Json))
deriving Inhabited

namespace Json

/-! ## Constructors -/

/-- The number of a natural. -/
def nat (n : Nat) : Json := .number (.integer n)

/-- The number of an integer. -/
def int (n : Int) : Json := .number (.integer n)

/-- A list of texts. -/
def strings (ss : List String) : Json := .array (ss.map .string)

/-- A value that may be missing: null stands for a missing one. -/
def optional {α : Type} (encode : α → Json) : Option α → Json
  | none => .null
  | some a => encode a

/-- A member that is left out when its value is missing. -/
def memberIfPresent {α : Type} (name : String) (encode : α → Json) :
    Option α → List (String × Json)
  | none => []
  | some a => [(name, encode a)]

/-! ## Views -/

/-- Whether a value is null. -/
def isNull : Json → Bool
  | .null => true
  | _ => false

/-- The text of a value that is a text. -/
def string? : Json → Option String
  | .string s => some s
  | _ => none

/-- The items of a value that is a list. -/
def array? : Json → Option (List Json)
  | .array items => some items
  | _ => none

/-- The members of a value that is an object. -/
def object? : Json → Option (List (String × Json))
  | .object members => some members
  | _ => none

/-- The member of an object with a given name, the first one given. -/
def get? (name : String) : Json → Option Json
  | .object members => members.lookup name
  | _ => none

/-! ## Canonical objects -/

/-- Adds a member to members in the order of their names, in place of one with
the same name. -/
def insertMember (name : String) (value : Json) :
    List (String × Json) → List (String × Json)
  | [] => [(name, value)]
  | (other, old) :: rest =>
      if name == other then (name, value) :: rest
      else if name < other then (name, value) :: (other, old) :: rest
      else (other, old) :: insertMember name value rest

mutual

/-- The value with every object's members in the order of their names, each name
once with the value given last. -/
def canonical : Json → Json
  | .array items => .array (canonicalItems items)
  | .object members => .object (canonicalMembers members [])
  | j => j

/-- The canonical values of a list. -/
def canonicalItems : List Json → List Json
  | [] => []
  | j :: rest => canonical j :: canonicalItems rest

/-- Adds the canonical values of members to members already in order. -/
def canonicalMembers : List (String × Json) → List (String × Json) → List (String × Json)
  | [], sorted => sorted
  | (name, value) :: rest, sorted =>
      canonicalMembers rest (insertMember name (canonical value) sorted)

end

end Json

end EstateFiling
