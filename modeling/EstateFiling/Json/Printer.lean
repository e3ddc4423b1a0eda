import EstateFiling.Json.Basic
import EstateFiling.Number.Shortest

/-!
# Writing data

A value is written either on one line without blanks, or over several lines: an
item or member a line, two blanks deeper than its list or object, with one blank
after the colon, and `[]` and an empty object on one line.  In texts the quote,
the backslash and control characters are escaped, the common control characters
by a letter and the others by four hexadecimal digits; all else is written as it
is.
-/

namespace EstateFiling.Json

/-! ## Texts -/

/-- A hexadecimal digit in lower case. -/
def hexDigit (n : Nat) : Char := Char.ofNat (if n < 10 then 48 + n else 87 + n)

/-- A character between quotes. -/
def escapeChar (c : Char) : List Char :=
  if c == '"' then ['\\', '"']
  else if c == '\\' then ['\\', '\\']
  else if c == '\x08' then ['\\', 'b']
  else if c == '\x0c' then ['\\', 'f']
  else if c == '\n' then ['\\', 'n']
  else if c == '\r' then ['\\', 'r']
  else if c == '\t' then ['\\', 't']
  else if c.toNat < 32 then
    ['\\', 'u', '0', '0', hexDigit (c.toNat / 16), hexDigit (c.toNat % 16)]
  else [c]

/-- A text in quotes. -/
def quoted (s : String) : List Char := '"' :: s.toList.flatMap escapeChar ++ ['"']

/-- A line end and the indentation of a depth. -/
def newLine (depth : Nat) : List Char := '\n' :: List.replicate (2 * depth) ' '

/-! ## Over several lines -/

mutual

/-- A value written at a depth over several lines. -/
def prettyChars (depth : Nat) : Json → List Char
  | .null => "null".toList
  | .bool true => "true".toList
  | .bool false => "false".toList
  | .number n => n.text.toList
  | .string s => quoted s
  | .array [] => ['[', ']']
  | .array (item :: items) =>
      '[' :: newLine (depth + 1) ++ prettyChars (depth + 1) item
        ++ prettyItems (depth + 1) items ++ newLine depth ++ [']']
  | .object [] => ['{', '}']
  | .object ((name, value) :: members) =>
      '{' :: newLine (depth + 1) ++ quoted name ++ [':', ' ']
        ++ prettyChars (depth + 1) value ++ prettyMembers (depth + 1) members
        ++ newLine depth ++ ['}']

/-- The further items of a list. -/
def prettyItems (depth : Nat) : List Json → List Char
  | [] => []
  | item :: items =>
      ',' :: newLine depth ++ prettyChars depth item ++ prettyItems depth items

/-- The further members of an object. -/
def prettyMembers (depth : Nat) : List (String × Json) → List Char
  | [] => []
  | (name, value) :: members =>
      ',' :: newLine depth ++ quoted name ++ [':', ' '] ++ prettyChars depth value
        ++ prettyMembers depth members

end

/-- A value written over several lines. -/
def pretty (j : Json) : String := String.ofList (prettyChars 0 j)

/-! ## On one line -/

mutual

/-- A value written on one line. -/
def compactChars : Json → List Char
  | .null => "null".toList
  | .bool true => "true".toList
  | .bool false => "false".toList
  | .number n => n.text.toList
  | .string s => quoted s
  | .array items => '[' :: compactItems items ++ [']']
  | .object members => '{' :: compactMembers members ++ ['}']

/-- The items of a list with commas between them. -/
def compactItems : List Json → List Char
  | [] => []
  | [item] => compactChars item
  | item :: next :: items => compactChars item ++ ',' :: compactItems (next :: items)

/-- The members of an object with commas between them. -/
def compactMembers : List (String × Json) → List Char
  | [] => []
  | [(name, value)] => quoted name ++ ':' :: compactChars value
  | (name, value) :: next :: members =>
      quoted name ++ ':' :: compactChars value ++ ',' :: compactMembers (next :: members)

end

/-- A value written on one line. -/
def compact (j : Json) : String := String.ofList (compactChars j)

end EstateFiling.Json
