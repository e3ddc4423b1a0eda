import EstateFiling.Text.Alphanumeric
import EstateFiling.Text.Ascii
import EstateFiling.Text.Blank

/-!
# Patterns

A pattern is a regular expression for the value of a field.  Here it is decided
only whether a pattern can be understood.

A pattern has branches with bars between them, and a branch is a run of items: a
character, a dot, an anchor, an escape, a set in brackets, a group in parentheses.
An item may be repeated with `?`, `*` or `+`.  Flags in parentheses hold up to the
end of the group they stand in.

No tables of Unicode are at hand.  So unless the flag `u` is off, what needs one is
refused: the classes `\d`, `\s` and `\w`, the edges of words, and characters in
either case.  Where the flag is off, a pattern is refused that could match a part
of a character.  Braces would count repetitions, and they are refused as well.
-/

namespace EstateFiling.Pattern

/-! ## Flags -/

/-- How the characters of a pattern are understood. -/
structure Flags where
  /-- Whether a letter stands for both its cases. -/
  ignoreCase : Bool := false
  /-- Whether characters are meant, and not bytes. -/
  unicode : Bool := true
  /-- Whether blanks and comments are passed over. -/
  extended : Bool := false
deriving DecidableEq, Repr

namespace Flags

/-- Sets or clears one flag. -/
def set (on : Bool) (flags : Flags) : Char → Flags
  | 'i' => { flags with ignoreCase := on }
  | 'u' => { flags with unicode := on }
  | 'x' => { flags with extended := on }
  | _ => flags

/-- Sets the flags in front of the minus sign and clears those behind it. -/
def apply (flags : Flags) (letters : List Char) : Flags :=
  let (on, off) := Text.splitFirst (· == '-') letters
  (off.getD []).foldl (set false) (on.foldl (set true) flags)

/-- Passes over the blanks and comments at the front, or over the rest of a comment. -/
def skipBlanks (inComment : Bool) : List Char → List Char
  | [] => []
  | c :: cs =>
      if inComment then skipBlanks (c != '\n') cs
      else if Text.isBlank c then skipBlanks false cs
      else if c == '#' then skipBlanks true cs
      else c :: cs

/-- Passes over what means nothing at the front. -/
def skip (flags : Flags) (cs : List Char) : List Char :=
  if flags.extended then skipBlanks false cs else cs

/-- The character behind what means nothing, where only the sign of a comment and
not its text is passed over. -/
def peek? (flags : Flags) (cs : List Char) : Option Char :=
  if flags.extended then
    match cs.dropWhile Text.isBlank with
    | '#' :: rest => (rest.dropWhile Text.isBlank).head?
    | rest => rest.head?
  else cs.head?

end Flags

/-- Takes the letters of flags up to a colon or a closing parenthesis, and says
whether it was the colon.  No letter comes twice, and a minus sign does not come
last. -/
def takeFlags? (taken : List Char) : List Char → Option (List Char × Bool × List Char)
  | [] => none
  | c :: cs =>
      if c == ':' || c == ')' then
        if taken.head? == some '-' then none else some (taken.reverse, c == ':', cs)
      else if "imsURux-".toList.contains c && !taken.contains c then takeFlags? (c :: taken) cs
      else none

/-! ## Atoms -/

/-- What matches a character or a place. -/
inductive Atom where
  /-- A character, and whether it may be meant as a byte. -/
  | literal (c : Char) (isByte : Bool)
  /-- One of the classes for digits, blanks and words, or what is not in it. -/
  | shorthand (negated : Bool)
  /-- A place, and whether it is the edge of a word. -/
  | place (ofWord : Bool)
deriving DecidableEq, Repr

namespace Atom

/-- Whether an atom can stand outside brackets. -/
def isAllowed (flags : Flags) : Atom → Bool
  | .literal c isByte => if flags.unicode then !flags.ignoreCase else !isByte || c.toNat < 128
  | .shorthand negated => !flags.unicode && !negated
  | .place ofWord => !(flags.unicode && ofWord)

/-- Whether an atom can stand between brackets. -/
def isMember (flags : Flags) : Atom → Bool
  | .literal c _ => if flags.unicode then !flags.ignoreCase else c.toNat < 128
  | .shorthand negated => !flags.unicode && !negated
  | .place _ => false

end Atom

/-- Takes a number of hexadecimal digits and gives the code point they write. -/
def takeCode? (flags : Flags) (code : Nat) : Nat → List Char → Option (Nat × List Char)
  | 0, cs => some (code, cs)
  | count + 1, cs =>
      match flags.skip cs with
      | [] => none
      | d :: rest => do takeCode? flags (16 * code + (← Text.hexDigit? d)) count rest

/-- The number of digits of an escape that writes a code point. -/
def codeLength? : Char → Option Nat
  | 'x' => some 2
  | 'u' => some 4
  | 'U' => some 8
  | _ => none

/-- The atom that a backslash in front of a character stands for. -/
def escaped? (c : Char) : Option Atom :=
  if ['d', 's', 'w'].contains c then some (.shorthand false)
  else if ['D', 'S', 'W'].contains c then some (.shorthand true)
  else if ['a', 'f', 't', 'n', 'r', 'v'].contains c then some (.literal c false)
  else if ['A', 'z'].contains c then some (.place false)
  else if ['b', 'B', '<', '>'].contains c then some (.place true)
  else if c.toNat < 128 && !c.isAlphanum then some (.literal c false)
  else none

/-- Takes the atom at the front. -/
def takeAtom? (flags : Flags) : List Char → Option (Atom × List Char)
  | [] | ['\\'] => none
  | '\\' :: c :: rest =>
      match codeLength? c with
      | none => (escaped? c).map (·, rest)
      | some length => do
          let (code, after) ← takeCode? flags 0 length rest
          if code.isValidChar then some (.literal (Char.ofNat code) (c == 'x'), after) else none
  | c :: rest => some (.literal c false, rest)

/-! ## Heights

The height of a part counts how deep it is nested; a pattern may not be too high. -/

/-- The greatest height. -/
def maxHeight : Nat := 250

/-- The height of parts that stand together; a part alone has its own height. -/
def heightOf : List Nat → Nat
  | [] => 0
  | [h] => h
  | h :: hs => 1 + hs.foldl max h

/-! ## Sets -/

/-- A set in brackets while it is read. -/
structure CharSet where
  /-- The height of what stands in front of the last operator. -/
  operand : Option Nat := none
  /-- The heights of the members behind it. -/
  members : List Nat := []
  /-- Whether nothing but minus signs has been read. -/
  fresh : Bool := true
deriving DecidableEq, Repr

namespace CharSet

/-- A set with one more member. -/
def add (s : CharSet) (height : Nat) : CharSet :=
  { s with members := height :: s.members, fresh := false }

/-- The height of what has been read. -/
def height (s : CharSet) : Nat := heightOf (heightOf s.members :: s.operand.toList)

/-- A set behind an operator. -/
def operator (s : CharSet) : CharSet := { operand := some s.height, fresh := false }

/-- Begins a set behind its bracket. -/
def start? (flags : Flags) (cs : List Char) : Option (CharSet × List Char) :=
  match flags.skip cs with
  | '^' :: rest => if flags.unicode then some ({}, rest) else none
  | rest => some ({}, rest)

/-- The names of classes that are written between brackets and colons. -/
def classNames : List String :=
  ["alnum", "alpha", "ascii", "blank", "cntrl", "digit", "graph", "lower", "print", "punct",
    "space", "upper", "word", "xdigit"]

/-- Takes the rest of a named class behind its bracket, and says whether what is not
in it is meant. -/
def takeNamed? : List Char → Option (Bool × List Char)
  | ':' :: cs =>
      let (negated, named) := match cs with
        | '^' :: rest => (true, rest)
        | _ => (false, cs)
      match Text.splitFirst (· == ':') named with
      | (name, some (']' :: rest)) =>
          if classNames.contains (String.ofList name) then some (negated, rest) else none
      | _ => none
  | _ => none

/-- Takes a member at the front: an atom, or two characters with a minus sign between
them that are in order. -/
def takeMember? (flags : Flags) (cs : List Char) : Option (List Char) := do
  let (first, afterFirst) ← takeAtom? flags cs
  if !first.isMember flags then none
  else
    match flags.skip afterFirst with
    | '-' :: rest =>
        if [some ']', some '-'].contains (flags.peek? rest) then some ('-' :: rest)
        else
          let (last, after) ← takeAtom? flags (flags.skip rest)
          match first, last with
          | .literal a _, .literal b _ =>
              if last.isMember flags && a ≤ b then some after else none
          | _, _ => none
    | rest => some rest

/-- Takes a set with the sets around it, the innermost first, and gives its height.
The first argument is more than the number of characters. -/
def take? (flags : Flags) : Nat → CharSet → List CharSet → List Char → Option (Nat × List Char)
  | 0, _, _, _ => none
  | fuel + 1, s, around, cs =>
      match flags.skip cs with
      | [] => none
      | c :: rest =>
          if s.fresh && (c == '-' || (c == ']' && s.members.isEmpty)) then
            if (Atom.literal c false).isMember flags then
              take? flags fuel { s.add 0 with fresh := c == '-' } around rest
            else none
          else
            match c, rest, around with
            | '[', rest, around =>
                match takeNamed? rest with
                | some (negated, after) =>
                    if if flags.unicode then !flags.ignoreCase else !negated then
                      take? flags fuel (s.add 0) around after
                    else none
                | none => do
                    let (inner, after) ← start? flags rest
                    take? flags fuel inner (s :: around) after
            | ']', rest, [] => some (1 + s.height, rest)
            | ']', rest, outer :: around =>
                take? flags fuel (outer.add (1 + s.height)) around rest
            | '&', '&' :: rest, around | '-', '-' :: rest, around | '~', '~' :: rest, around =>
                take? flags fuel s.operator around rest
            | c, rest, around => do
                take? flags fuel (s.add 0) around (← takeMember? flags (c :: rest))

end CharSet

/-! ## Groups -/

/-- An item of a branch. -/
structure Item where
  /-- Its height. -/
  height : Nat := 0
  /-- Whether it can be repeated. -/
  repeatable : Bool := true
deriving DecidableEq, Repr

/-- A group, or the whole pattern, while it is read. -/
structure Group where
  /-- The flags that hold. -/
  flags : Flags := {}
  /-- The heights of the branches read before. -/
  branches : List Nat := []
  /-- The items of the last branch, the last one first. -/
  items : List Item := []
deriving DecidableEq, Repr

namespace Group

/-- A group with one more item. -/
def add (g : Group) (i : Item) : Group := { g with items := i :: g.items }

/-- The height of what has been read. -/
def height (g : Group) : Nat := heightOf (heightOf (g.items.map Item.height) :: g.branches)

/-- A group with one more branch, which is empty. -/
def branch (g : Group) : Group :=
  { g with branches := heightOf (g.items.map Item.height) :: g.branches, items := [] }

/-- Repeats the last item. -/
def repeatLast? (g : Group) : Option Group :=
  match g.items with
  | [] => none
  | i :: items =>
      if i.repeatable then some { g with items := ⟨1 + i.height, true⟩ :: items } else none

end Group

/-- A pattern while it is read. -/
structure State where
  /-- The names of groups. -/
  names : List (List Char) := []
  /-- The innermost group. -/
  group : Group := {}
  /-- The groups around it, from the inside. -/
  around : List Group := []
deriving DecidableEq, Repr

/-- Whether a character can stand in the name of a group. -/
def isNameChar (c : Char) : Bool := Text.isAlphanumeric c || ['_', '.', '[', ']'].contains c

/-- Takes the name of a group behind its bracket. -/
def takeName? (cs : List Char) : Option (List Char × List Char) :=
  match Text.splitFirst (· == '>') cs with
  | (c :: name, some rest) =>
      if (c == '_' || Text.isLetter c) && name.all isNameChar then some (c :: name, rest) else none
  | _ => none

namespace State

/-- A pattern whose innermost group is another one. -/
def withGroup (s : State) (g : Group) : State := { s with group := g }

/-- Opens a group in which flags hold. -/
def openGroup (s : State) (flags : Flags) : State :=
  { s with group := { flags := flags }, around := s.group :: s.around }

/-- Closes a group. -/
def closeGroup? (s : State) : Option State :=
  match s.around with
  | outer :: around =>
      some { s with group := outer.add ⟨1 + s.group.height, true⟩, around := around }
  | [] => none

/-- Opens a group behind its parenthesis, or changes the flags. -/
def takeOpening? (s : State) (cs : List Char) : Option (State × List Char) :=
  let flags := s.group.flags
  let named (cs : List Char) : Option (State × List Char) := do
    let (name, rest) ← takeName? cs
    if s.names.contains name then none
    else some ({ s with names := name :: s.names }.openGroup flags, rest)
  match flags.skip cs with
  | '?' :: 'P' :: '<' :: rest | '?' :: '<' :: rest => named rest
  | '?' :: rest =>
      match takeFlags? [] rest with
      | none => none
      | some (letters, true, after) => some (s.openGroup (flags.apply letters), after)
      | some (letters, false, after) =>
          if letters.isEmpty then none
          else
            let changed := { s.group with flags := flags.apply letters }
            some (s.withGroup (changed.add ⟨0, false⟩), after)
  | rest => some (s.openGroup flags, rest)

/-- Takes one step: an item, a sign of repetition, a bar, or the start or the end of a
group. -/
def step? (s : State) (c : Char) (rest : List Char) : Option (State × List Char) :=
  let flags := s.group.flags
  match c with
  | '(' => s.takeOpening? rest
  | ')' => s.closeGroup?.map (·, rest)
  | '|' => some (s.withGroup s.group.branch, rest)
  | '[' => do
      let (set, inside) ← CharSet.start? flags rest
      let (height, after) ← set.take? flags (inside.length + 1) [] inside
      some (s.withGroup (s.group.add ⟨height, true⟩), after)
  | '?' | '*' | '+' => do
      let repeated ← s.group.repeatLast?
      some (s.withGroup repeated, if rest.head? == some '?' then rest.tail else rest)
  | '{' => none
  | '.' => if flags.unicode then some (s.withGroup (s.group.add {}), rest) else none
  | '^' | '$' => some (s.withGroup (s.group.add {}), rest)
  | c => do
      let (atom, after) ← takeAtom? flags (c :: rest)
      if atom.isAllowed flags then some (s.withGroup (s.group.add {}), after) else none

/-- Whether a pattern may end here. -/
def isComplete (s : State) : Bool := s.around.isEmpty && s.group.height ≤ maxHeight

/-- Whether the rest of a pattern can be understood.  The first argument is more than
the number of characters. -/
def accepts : Nat → State → List Char → Bool
  | 0, _, _ => false
  | fuel + 1, s, cs =>
      match s.group.flags.skip cs with
      | [] => s.isComplete
      | c :: rest =>
          match s.step? c rest with
          | some (next, after) => accepts fuel next after
          | none => false

end State

/-- Whether a pattern can be understood. -/
def isValid (pattern : String) : Bool :=
  let cs := pattern.toList
  State.accepts (cs.length + 1) {} cs

end EstateFiling.Pattern
