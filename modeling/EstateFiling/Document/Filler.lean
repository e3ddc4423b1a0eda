import EstateFiling.Calendar.Date
import EstateFiling.Estate.Person
import EstateFiling.Text.Blank

/-!
# Fillers, lists and markers

What a printed form puts where an answer is missing, and how it strings answers
together.  A missing answer is a run of dots to be filled in by hand, a place to
sign a run of underlines.  Entries of a list in a sentence have commas and a last
"and" between them; entries of an enumeration are marked with letters.
-/

namespace EstateFiling.Filler

/-- A checked box. -/
def checkedBox : String := "\u2612"

/-- A box that is not checked. -/
def uncheckedBox : String := "\u2610"

/-- The printed box. -/
def box (checked : Bool) : String := if checked then checkedBox else uncheckedBox

/-- A run of dots. -/
def dots (width : Nat) : String := Text.repeated '.' width

/-- A run of underlines. -/
def underline (width : Nat) : String := Text.repeated '_' width

/-- A text, trimmed, or a run of dots when it is blank. -/
def orDots (text : String) (width : Nat) : String :=
  let trimmed := Text.trim text
  if trimmed.isEmpty then dots width else trimmed

/-- An address on one line, or a run of dots when there is none. -/
def addressOrDots (address : Address) (width : Nat) : String := orDots address.text width

/-- A date with the month's name, or a run of dots when there is none. -/
def dateOrDots (date : Option Date) (width : Nat) : String :=
  match date with
  | some d => d.longText
  | none => dots width

/-- Texts with commas between them and "and" before the last. -/
def joinList (items : List String) : String :=
  match items with
  | [] => ""
  | [item] => item
  | first :: rest =>
      Text.join ", " (first :: rest.dropLast) ++ " and " ++ rest.getLastD ""

/-- The marker of an entry of an enumeration: one letter in parentheses, doubled
after the last letter of the alphabet, then tripled, and so on. -/
def letterMarker (index : Nat) : String :=
  "(" ++ Text.repeated (Char.ofNat (97 + index % 26)) (index / 26 + 1) ++ ")"

end EstateFiling.Filler
