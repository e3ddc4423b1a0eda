import EstateFiling.Json.Token

/-!
# Data as it is written

A source is what a text has in place of a data value.  Besides values it has two
sorts of flaws.  A part may be well formed and yet stand for nothing: a number
beyond the doubles, a text with a surrogate on its own, lists and objects more
than 127 deep.  Such a part does no harm where nobody asks for it.  And the text
may stop being well formed, or end too early; then nothing after that place is
read, and the lists and objects that are open there are not closed.

`Source.ofTokens` reads the source at the front of a sequence of tokens,
`Source.json?` is the value of a source without flaws, and `Json.source` the
source without flaws of a value.
-/

namespace EstateFiling.Json

/-- A data value as it is written. -/
inductive Source where
  /-- Null. -/
  | null
  /-- A truth value. -/
  | bool (b : Bool)
  /-- A number. -/
  | number (n : Number)
  /-- A text. -/
  | string (s : String)
  /-- A well-formed part that stands for nothing. -/
  | unreadable
  /-- The place where the text stops being well formed. -/
  | broken
  /-- The items of a list, and whether the list is closed. -/
  | array (items : List Source) (closed : Bool)
  /-- The members of an object, in order, and whether the object is closed.  A
  name that stands for nothing is missing. -/
  | object (members : List (Option String × Source)) (closed : Bool)
deriving Inhabited

/-- A list or an object that is still open. -/
inductive Open where
  /-- A list with its items so far, latest first. -/
  | array (items : List Source)
  /-- An object with its members so far, latest first, and the name whose value
  is being read. -/
  | object (members : List (Option String × Source)) (name : Option String)

/-- What may come next. -/
inductive Mode where
  /-- A value. -/
  | value
  /-- A value, or the end of the list just opened. -/
  | firstItem
  /-- A name, or the end of the object just opened. -/
  | firstName
  /-- A name, after members, latest first. -/
  | name (members : List (Option String × Source))
  /-- The colon after a name. -/
  | colon (members : List (Option String × Source)) (name : Option String)
  /-- What follows a whole value: a comma or an end. -/
  | after (value : Source)

namespace Source

/-! ## Reading -/

/-- How deep lists and objects may be open. -/
def maxDepth : Nat := 127

/-- The source of a scalar. -/
def ofScalar {α : Type} (make : α → Source) : Option α → Source
  | some a => make a
  | none => unreadable

/-- A closed list or object that was open at a depth. -/
def closedAt (depth : Nat) (s : Source) : Source := if depth ≤ maxDepth then s else unreadable

/-- The next state after a token that starts a value. -/
def beginValue (stack : List Open) (depth : Nat) : Token → Option (Mode × List Open × Nat)
  | .null => some (.after null, stack, depth)
  | .bool b => some (.after (bool b), stack, depth)
  | .number n => some (.after (ofScalar number n), stack, depth)
  | .string s => some (.after (ofScalar string s), stack, depth)
  | .leftBracket => some (.firstItem, .array [] :: stack, depth + 1)
  | .leftBrace => some (.firstName, stack, depth + 1)
  | _ => none

/-- The next state after a token, with the open lists and objects and their
number. -/
def step : Mode → List Open → Nat → Token → Option (Mode × List Open × Nat)
  | .value, stack, depth, token => beginValue stack depth token
  | .firstItem, .array _ :: stack, depth, .rightBracket =>
      some (.after (closedAt depth (array [] true)), stack, depth - 1)
  | .firstItem, stack, depth, token => beginValue stack depth token
  | .firstName, stack, depth, .rightBrace =>
      some (.after (closedAt depth (object [] true)), stack, depth - 1)
  | .firstName, stack, depth, .string s => some (.colon [] s, stack, depth)
  | .name members, stack, depth, .string s => some (.colon members s, stack, depth)
  | .colon members name, stack, depth, .colon =>
      some (.value, .object members name :: stack, depth)
  | .after value, .array items :: stack, depth, .comma =>
      some (.value, .array (value :: items) :: stack, depth)
  | .after value, .array items :: stack, depth, .rightBracket =>
      some (.after (closedAt depth (array (value :: items).reverse true)), stack, depth - 1)
  | .after value, .object members name :: stack, depth, .comma =>
      some (.name ((name, value) :: members), stack, depth)
  | .after value, .object members name :: stack, depth, .rightBrace =>
      some (.after (closedAt depth (object ((name, value) :: members).reverse true)), stack,
        depth - 1)
  | _, _, _, _ => none

/-- The source that ends with a part inside lists and objects that stay open. -/
def endInside (part : Source) : List Open → Source
  | [] => part
  | .array items :: stack => endInside (array (part :: items).reverse false) stack
  | .object members name :: stack =>
      endInside (object ((name, part) :: members).reverse false) stack

/-- The source that ends where something else should have come. -/
def endAt : Mode → List Open → Source
  | .value, stack | .firstItem, stack => endInside broken stack
  | .firstName, stack => endInside (object [] false) stack
  | .name members, stack => endInside (object members.reverse false) stack
  | .colon members name, stack =>
      endInside (object ((name, broken) :: members).reverse false) stack
  | .after value, stack => endInside value stack

/-- Reads tokens up to the end of a value. -/
def run : Mode → List Open → Nat → List Token → Source × List Token
  | .after value, [], _, tokens => (value, tokens)
  | mode, stack, _, [] => (endAt mode stack, [])
  | mode, stack, depth, token :: tokens =>
      match step mode stack depth token with
      | some (mode, stack, depth) => run mode stack depth tokens
      | none => (endAt mode stack, token :: tokens)

/-- The source at the front of a sequence of tokens, and what follows it. -/
def ofTokens (tokens : List Token) : Source × List Token := run .value [] 0 tokens

/-- The source at the front of a text, and the tokens that follow it. -/
def ofString (text : String) : Source × List Token := ofTokens (Token.ofChars text.toList)

/-! ## Values -/

mutual

/-- The value of a source without flaws. -/
def json? : Source → Option Json
  | .null => some .null
  | .bool b => some (.bool b)
  | .number n => some (.number n)
  | .string s => some (.string s)
  | .unreadable | .broken => none
  | .array items closed => if closed then (items? items).map .array else none
  | .object members closed => if closed then (members? members).map .object else none

/-- The values of items. -/
def items? : List Source → Option (List Json)
  | [] => some []
  | item :: items => do
      let value ← json? item
      some (value :: (← items? items))

/-- The values of members. -/
def members? : List (Option String × Source) → Option (List (String × Json))
  | [] => some []
  | (none, _) :: _ => none
  | (some name, member) :: members => do
      let value ← json? member
      some ((name, value) :: (← members? members))

end

end Source

mutual

/-- The source of a value. -/
def source : Json → Source
  | .null => .null
  | .bool b => .bool b
  | .number n => .number n
  | .string s => .string s
  | .array items => .array (itemSources items) true
  | .object members => .object (memberSources members) true

/-- The sources of items. -/
def itemSources : List Json → List Source
  | [] => []
  | item :: items => source item :: itemSources items

/-- The sources of members. -/
def memberSources : List (String × Json) → List (Option String × Source)
  | [] => []
  | (name, value) :: members => (some name, source value) :: memberSources members

end

end EstateFiling.Json
