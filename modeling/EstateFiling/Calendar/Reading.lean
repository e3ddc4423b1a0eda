import EstateFiling.Calendar.Date
import EstateFiling.Text.Blank

/-!
# Reading dates

A date is read in one of three forms.

* `Date.parse?`, the form of models: year, month and day with minus signs
  between them, blanks allowed before each number, after each number and at the
  end.  Month and day have one or two digits.  The year has one to four digits,
  or any number of digits after a sign.
* `Date.plain?`: the same, but with no blanks after the numbers.
* `Date.ofTimestamp?`: a date, a time and an offset from universal time, whose
  day is the one in universal time.

`Date.ofRecord?` is what records hold: a plain date or a timestamp, trimmed.
-/

namespace EstateFiling.Date

/-! ## Pieces -/

/-- Takes digits from the front, at least `least` and at most `most`. -/
def takeDigits (least most : Nat) (cs : List Char) : Option (Nat × List Char) :=
  let digits := (cs.take most).takeWhile Char.isDigit
  if digits.length < least then none
  else some (Text.digitsValue digits, cs.drop digits.length)

/-- Takes one given character from the front. -/
def takeChar (c : Char) : List Char → Option (List Char)
  | d :: rest => if d == c then some rest else none
  | [] => none

/-- Drops the blanks at the front. -/
def skipBlanks (cs : List Char) : List Char := cs.dropWhile Text.isBlank

/-- Takes a year, before which blanks may stand. -/
def takeYear (cs : List Char) : Option (Int × List Char) :=
  match skipBlanks cs with
  | '-' :: rest => (takeDigits 1 rest.length rest).map (fun (n, after) => (-(n : Int), after))
  | '+' :: rest => (takeDigits 1 rest.length rest).map (fun (n, after) => ((n : Int), after))
  | rest => (takeDigits 1 4 rest).map (fun (n, after) => ((n : Int), after))

/-- Takes a month or a day, before which blanks may stand. -/
def takeTwo (cs : List Char) : Option (Nat × List Char) := takeDigits 1 2 (skipBlanks cs)

/-- Reads year, month and day with minus signs between them.  `gap` drops what
may stand after a number. -/
def takeCivil (gap : List Char → List Char) (cs : List Char) : Option Date := do
  let (year, cs) ← takeYear cs
  let cs ← takeChar '-' (gap cs)
  let (month, cs) ← takeTwo cs
  let cs ← takeChar '-' (gap cs)
  let (day, cs) ← takeTwo cs
  if (gap cs).isEmpty then ofCivil? year month day else none

/-- Reads a date of a model. -/
def parse? (s : String) : Option Date := takeCivil skipBlanks s.toList

/-- Reads a date with no blanks after its numbers. -/
def plain? (cs : List Char) : Option Date := takeCivil id cs

/-! ## Timestamps -/

/-- Takes the fraction of a second, if there is one. -/
def takeFraction : List Char → Option (List Char)
  | '.' :: rest =>
      match rest with
      | c :: _ => if c.isDigit then some (rest.dropWhile Char.isDigit) else none
      | [] => none
  | cs => some cs

/-- Reads the offset from universal time, in seconds, up to the end. -/
def offsetSeconds? : List Char → Option Int
  | [] => none
  | sign :: rest =>
      if (sign == 'Z' || sign == 'z') && rest.isEmpty then some 0
      else do
        let factor : Int ←
          if sign == '+' then some 1
          else if sign == '-' || sign == '\u2212' then some (-1)
          else none
        let (hours, cs) ← takeDigits 2 2 rest
        let cs ← takeChar ':' cs
        let (minutes, cs) ← takeDigits 2 2 cs
        if cs.isEmpty && hours < 24 && minutes < 60 then
          some (factor * (3600 * (hours : Int) + 60 * (minutes : Int)))
        else none

/-- Reads a timestamp: the date in universal time.  A leap second belongs to the
minute it ends. -/
def ofTimestamp? (cs : List Char) : Option Date := do
  let (year, cs) ← takeDigits 4 4 cs
  let cs ← takeChar '-' cs
  let (month, cs) ← takeDigits 2 2 cs
  let cs ← takeChar '-' cs
  let (day, cs) ← takeDigits 2 2 cs
  let cs ← match cs with
    | c :: rest => if c == 'T' || c == 't' || c == ' ' then some rest else none
    | [] => none
  let (hour, cs) ← takeDigits 2 2 cs
  let cs ← takeChar ':' cs
  let (minute, cs) ← takeDigits 2 2 cs
  let cs ← takeChar ':' cs
  let (second, cs) ← takeDigits 2 2 cs
  let cs ← takeFraction cs
  let offset ← offsetSeconds? cs
  let date ← ofCivil? year month day
  if hour < 24 && minute < 60 && second ≤ 60 then
    let seconds : Int := 3600 * (hour : Int) + 60 * (minute : Int) + (min second 59 : Nat)
    date.addDays? ((seconds - offset) / 86400)
  else none

/-- Reads the date of a record. -/
def ofRecord? (s : String) : Option Date :=
  let cs := Text.trimChars s.toList
  if cs.isEmpty then none else (plain? cs).orElse (fun _ => ofTimestamp? cs)

end EstateFiling.Date
