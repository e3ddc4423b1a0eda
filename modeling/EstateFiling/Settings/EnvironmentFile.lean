import EstateFiling.Settings.Environment
import EstateFiling.Text.Alphanumeric
import EstateFiling.Text.Blank

/-!
# Environment files

A file of default values, one assignment `NAME=value` a line.  `export` may stand
in front.  A value ends at the line's end; quotes may carry it over several lines.
In single quotes everything stands for itself.  Elsewhere a backslash escapes a
few characters, and a dollar sign with a name, which may stand in braces, stands
for the value of that name.  Lines that start with a number sign, and what follows
a blank and a number sign, are comments.

A name that has a value already keeps it.  Reading stops at the first faulty line;
the assignments before it hold.
-/

namespace EstateFiling.EnvironmentFile

/-! ## Lines -/

/-- How far a line's quotes reach. -/
inductive Reach where
  /-- Outside quotes. -/
  | outside
  /-- Outside quotes after a blank. -/
  | afterBlank
  /-- After a backslash outside quotes. -/
  | escaped
  /-- In single quotes. -/
  | single
  /-- After a backslash in single quotes. -/
  | singleEscaped
  /-- In double quotes. -/
  | double
  /-- After a backslash in double quotes. -/
  | doubleEscaped
deriving DecidableEq, Repr

/-- The reach after a character outside quotes. -/
def Reach.ofOutside (c : Char) : Reach :=
  if c == '\\' then .escaped
  else if c == '"' then .double
  else if c == '\'' then .single
  else .outside

/-- The reach after a character; nothing when a comment starts. -/
def Reach.next : Reach → Char → Option Reach
  | .afterBlank, c => if c == '#' then none else some (.ofOutside c)
  | .outside, c =>
      if Text.isBlank c && c != '\n' && c != '\r' then some .afterBlank
      else some (.ofOutside c)
  | .escaped, _ => some .outside
  | .double, c =>
      some (if c == '\\' then .doubleEscaped else if c == '"' then .outside else .double)
  | .doubleEscaped, _ => some .double
  | .single, c =>
      some (if c == '\\' then .singleEscaped else if c == '\'' then .outside else .single)
  | .singleEscaped, _ => some .single

/-- The part of a line before its comment, and the reach at its end if it has no
comment. -/
def scanLine : Reach → List Char → List Char × Option Reach
  | reach, [] => ([], some reach)
  | reach, c :: cs =>
      match reach.next c with
      | none => ([], none)
      | some next =>
          let (before, last) := scanLine next cs
          (c :: before, last)

/-- The lines of a text with their ends. -/
def physicalLines : List Char → List (List Char)
  | [] => []
  | c :: cs =>
      if c == '\n' then [c] :: physicalLines cs
      else
        match physicalLines cs with
        | line :: lines => (c :: line) :: lines
        | [] => [[c]]

/-- A line without its end. -/
def withoutEnd (line : List Char) : List Char :=
  match line.reverse with
  | '\n' :: '\r' :: rest => rest.reverse
  | '\n' :: rest => rest.reverse
  | _ => line

/-- Whether a line holds nothing but a comment. -/
def isComment (line : List Char) : Bool := (line.dropWhile Text.isBlank).head? == some '#'

/-- Joins lines that a quote carries over, given what was read of the current one.
The last entry is nothing when the text ends inside it. -/
def logicalLines : Reach → List Char → List (List Char) → List (Option (List Char))
  | .outside, _, [] => []
  | _, _, [] => [none]
  | reach, read, line :: lines =>
      if isComment (read ++ line) then logicalLines .outside [] lines
      else
        match scanLine reach line with
        | (before, none) => some (read ++ before) :: logicalLines .outside [] lines
        | (_, some .outside) =>
            some (withoutEnd (read ++ line)) :: logicalLines .outside [] lines
        | (_, some next) => logicalLines next (read ++ line) lines

/-! ## Values -/

/-- Where the next character of a value stands. -/
inductive Place where
  /-- Outside quotes. -/
  | plain
  /-- In double quotes. -/
  | double
  /-- In single quotes. -/
  | single
  /-- After the value. -/
  | ended
deriving DecidableEq, Repr

/-- A value that is being read. -/
structure Reading where
  /-- Where the next character stands. -/
  place : Place := .plain
  /-- Whether the next character is escaped. -/
  escaped : Bool := false
  /-- The name that is being read, latest character first, and whether it stands
  in braces. -/
  name : Option (List Char × Bool) := none
  /-- The value so far, latest character first. -/
  value : List Char := []
deriving DecidableEq, Repr

namespace Reading

/-- Takes a character into the value. -/
def push (r : Reading) (c : Char) : Reading := { r with value := c :: r.value }

/-- Puts the value of a name into the value. -/
def substitute (r : Reading) (e : Environment) (name : List Char) : Reading :=
  let text := (e.get? (String.ofList name.reverse)).getD ""
  { r with name := none, value := text.toList.reverse ++ r.value }

/-- Reads a character after a backslash. -/
def readEscaped (r : Reading) (c : Char) : Option Reading :=
  if ['\\', '\'', '"', '$', ' '].contains c then some { r.push c with escaped := false }
  else if c == 'n' then some { r.push '\n' with escaped := false }
  else none

/-- Reads a character of a name. -/
def readName (r : Reading) (e : Environment) (name : List Char) (braced : Bool) (c : Char) :
    Reading :=
  if Text.isAlphanumeric c then { r with name := some (c :: name, braced) }
  else if braced then
    if c == '}' then r.substitute e name else { r with name := some (c :: name, braced) }
  else if c == '{' && name.isEmpty then { r with name := some ([], true) }
  else if c == '$' then { r.substitute e name with name := some ([], false) }
  else (r.substitute e name).push c

/-- Reads a character that is neither escaped nor part of a name. -/
def readOther (r : Reading) (c : Char) : Option Reading :=
  match r.place with
  | .ended => none
  | .single => some (if c == '\'' then { r with place := .plain } else r.push c)
  | .double =>
      some
        (if c == '$' then { r with name := some ([], false) }
        else if c == '"' then { r with place := .plain }
        else if c == '\\' then { r with escaped := true }
        else r.push c)
  | .plain =>
      some
        (if c == '$' then { r with name := some ([], false) }
        else if c == '\'' then { r with place := .single }
        else if c == '"' then { r with place := .double }
        else if c == '\\' then { r with escaped := true }
        else if c == ' ' || c == '\t' then { r with place := .ended }
        else r.push c)

/-- Reads a value to its end. -/
def run (e : Environment) : Reading → List Char → Option Reading
  | r, [] => some r
  | r, c :: cs =>
      if r.place = .ended then
        if c == ' ' || c == '\t' then run e r cs
        else if c == '#' then some r
        else none
      else if r.escaped then (r.readEscaped c).bind (fun next => run e next cs)
      else
        match r.name with
        | some (name, braced) => run e (r.readName e name braced c) cs
        | none => (r.readOther c).bind (fun next => run e next cs)

end Reading

/-- The value that is written. -/
def value? (e : Environment) (cs : List Char) : Option String := do
  let r ← Reading.run e {} cs
  match r.place, r.name with
  | .single, _ | .double, _ | _, some (_, true) => none
  | _, some (name, false) => some (String.ofList (r.substitute e name).value.reverse)
  | _, none => some (String.ofList r.value.reverse)

/-! ## Assignments -/

/-- A line without the blanks in front. -/
def skipBlanks (cs : List Char) : List Char := cs.dropWhile Text.isBlank

/-- Whether a character can stand in a name. -/
def isNameChar (c : Char) : Bool := c.isAlphanum || c == '_' || c == '.'

/-- A name and what follows it. -/
def name? (cs : List Char) : Option (String × List Char) :=
  match cs with
  | c :: _ =>
      if c.isAlpha || c == '_' then
        some (String.ofList (cs.takeWhile isNameChar), skipBlanks (cs.dropWhile isNameChar))
      else none
  | [] => none

/-- What follows an equals sign. -/
def afterEquals? : List Char → Option (List Char)
  | '=' :: rest => some (skipBlanks rest)
  | _ => none

/-- A name and what is assigned to it; `export` in front of a name is passed over. -/
def assignment? (cs : List Char) : Option (String × List Char) := do
  let (name, rest) ← name? cs
  match name, afterEquals? rest with
  | _, some value => some (name, value)
  | "export", none => do
      let (name, rest) ← name? rest
      some (name, ← afterEquals? rest)
  | _, none => none

/-- Whether nothing is left but a comment. -/
def isEmptyOrComment (cs : List Char) : Bool := cs.isEmpty || cs.head? == some '#'

/-- The environment after a line. -/
def applyLine (e : Environment) (line : List Char) : Option Environment :=
  let cs := Text.trimChars line
  if isEmptyOrComment cs then some e
  else do
    let (name, rest) ← assignment? cs
    let value ← if isEmptyOrComment rest then some "" else value? e rest
    some (e.withDefault name value)

/-- The environment after the lines before the first faulty one. -/
def applyLines : Environment → List (Option (List Char)) → Environment
  | e, [] | e, none :: _ => e
  | e, some line :: lines =>
      match applyLine e line with
      | some next => applyLines next lines
      | none => e

/-- A text without a byte order mark in front. -/
def withoutMark : List Char → List Char
  | c :: cs => if c.toNat = 0xFEFF then cs else c :: cs
  | [] => []

/-- The environment with the defaults of a file. -/
def apply (e : Environment) (text : String) : Environment :=
  applyLines e (logicalLines .outside [] (physicalLines (withoutMark text.toList)))

/-- The names that dollar signs in a file may stand for. -/
def references (text : String) : List String :=
  ((Text.splitWhere (· == '$') text.toList).drop 1).map (fun part =>
    String.ofList ((if part.head? == some '{' then part.drop 1 else part).takeWhile
      (fun c => isNameChar c || Text.isAlphanumeric c)))

end EstateFiling.EnvironmentFile
