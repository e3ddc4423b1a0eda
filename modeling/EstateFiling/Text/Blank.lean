/-!
# Blanks, trimming and words

A *blank* is a character with the Unicode property `White_Space`.  Every text a
case record holds is trimmed of blanks before it is used, and a full name is
split into words at blanks.  The work is done on lists of characters; the
functions on `String` only wrap it.
-/

namespace EstateFiling.Text

/-! ## Blanks -/

/-- The characters with the Unicode property `White_Space`. -/
def isBlank (c : Char) : Bool :=
  let n := c.toNat
  (9 ≤ n && n ≤ 13) || n == 32 || n == 0x85 || n == 0xA0 || n == 0x1680
    || (0x2000 ≤ n && n ≤ 0x200A) || n == 0x2028 || n == 0x2029 || n == 0x202F
    || n == 0x205F || n == 0x3000

/-- Drops the blanks at both ends. -/
def trimChars (cs : List Char) : List Char :=
  ((cs.dropWhile isBlank).reverse.dropWhile isBlank).reverse

/-- Drops the blanks at both ends. -/
def trim (s : String) : String := String.ofList (trimChars s.toList)

/-- Whether a text is empty or holds only blanks. -/
def isBlankText (s : String) : Bool := s.toList.all isBlank

/-! ## Splitting -/

/-- Cuts a list at every element of a class, which is dropped.  There is one
part more than there are such elements. -/
def splitWhere {α : Type} (p : α → Bool) : List α → List (List α)
  | [] => [[]]
  | c :: cs =>
      if p c then [] :: splitWhere p cs
      else
        match splitWhere p cs with
        | part :: parts => (c :: part) :: parts
        | [] => [[c]]

/-- The words of a text: its longest runs without a blank. -/
def words (s : String) : List String :=
  ((splitWhere isBlank s.toList).filter (fun w => !w.isEmpty)).map String.ofList

/-- Cuts a list before the first element of a class; the element itself is
dropped, and the second part is absent when there is none. -/
def splitFirst {α : Type} (p : α → Bool) : List α → List α × Option (List α)
  | [] => ([], none)
  | c :: cs =>
      if p c then ([], some cs)
      else
        let (before, after) := splitFirst p cs
        (c :: before, after)

/-! ## Joining -/

/-- The texts in order with a separator between neighbours. -/
def join (separator : String) (parts : List String) : String :=
  separator.intercalate parts

/-- The trimmed texts that are not blank. -/
def trimmedNonBlank (parts : List String) : List String :=
  (parts.map trim).filter (fun part => !part.isEmpty)

/-- A text repeated a number of times. -/
def repeated (c : Char) (count : Nat) : String := String.ofList (List.replicate count c)

end EstateFiling.Text
