import EstateFiling.Text.Ascii
import EstateFiling.Text.Blank

/-!
# Internet addresses

An address is four numbers with points between them or eight groups of
hexadecimal digits with colons.  In the second form two colons stand for one or
more groups of zeros, and the last two groups may be written as four numbers.
It is printed with the longest run of two or more zero groups left out.
-/

namespace EstateFiling

/-- An internet address. -/
inductive IpAddress where
  /-- Four numbers. -/
  | v4 (octets : List UInt8)
  /-- Eight groups. -/
  | v6 (groups : List UInt16)
deriving DecidableEq, Repr

namespace IpAddress

/-! ## Reading -/

/-- A number of the first form: no leading zero, at most 255. -/
def octet? (cs : List Char) : Option UInt8 := do
  let n ← Text.natOfDigits? cs
  if n < 256 && (cs.length == 1 || cs.head? != some '0') then some (UInt8.ofNat n) else none

/-- Four numbers. -/
def octets? (cs : List Char) : Option (List UInt8) := do
  let octets ← (Text.splitWhere (· == '.') cs).mapM octet?
  if octets.length = 4 then some octets else none

/-- A group of one to four hexadecimal digits. -/
def group? (cs : List Char) : Option UInt16 := do
  let digits ← cs.mapM Text.hexDigit?
  if 1 ≤ digits.length ∧ digits.length ≤ 4 then
    some (UInt16.ofNat (digits.foldl (fun n d => 16 * n + d) 0))
  else none

/-- Four numbers as two groups. -/
def pairs : List UInt8 → List UInt16
  | a :: b :: rest => UInt16.ofNat (256 * a.toNat + b.toNat) :: pairs rest
  | _ => []

/-- Groups, the last two of which may be written as four numbers. -/
def groupsOf? : List (List Char) → Option (List UInt16)
  | [] => some []
  | [last] => ((octets? last).map pairs).or ((group? last).map (fun group => [group]))
  | first :: rest => do some ((← group? first) :: (← groupsOf? rest))

/-- The groups of one side of two colons. -/
def side? (cs : List Char) : Option (List UInt16) :=
  if cs.isEmpty then some [] else groupsOf? (Text.splitWhere (· == ':') cs)

/-- The parts before and after the first two colons. -/
def splitDouble : List Char → List Char × Option (List Char)
  | ':' :: ':' :: rest => ([], some rest)
  | c :: cs =>
      let (before, after) := splitDouble cs
      (c :: before, after)
  | [] => ([], none)

/-- Eight groups. -/
def groups? (cs : List Char) : Option (List UInt16) :=
  match splitDouble cs with
  | (whole, none) => (side? whole).filter (fun groups => groups.length == 8)
  | (front, some back) => do
      if front.contains '.' then none
      let front ← side? front
      let back ← side? back
      if front.length + back.length ≤ 7 then
        some (front ++ List.replicate (8 - (front.length + back.length)) 0 ++ back)
      else none

/-- Reads an address. -/
def parse? (s : String) : Option IpAddress :=
  ((octets? s.toList).map .v4).or ((groups? s.toList).map .v6)

/-! ## Writing -/

/-- Numbers with points between them. -/
def octetsText (octets : List UInt8) : String :=
  Text.join "." (octets.map (fun octet => toString octet.toNat))

/-- Groups with colons between them. -/
def groupsText (groups : List UInt16) : String :=
  Text.join ":" (groups.map (fun group => String.ofList (Nat.toDigits 16 group.toNat)))

/-- The number of zero groups in front. -/
def zerosInFront (groups : List UInt16) : Nat := (groups.takeWhile (· == 0)).length

/-- The place and the length of the first longest run of zero groups. -/
def longestZeros (groups : List UInt16) : Nat × Nat :=
  (List.range groups.length).foldl
    (fun best start =>
      let length := zerosInFront (groups.drop start)
      if best.2 < length then (start, length) else best)
    (0, 0)

/-- The text of an address. -/
def text : IpAddress → String
  | .v4 octets => octetsText octets
  | .v6 [0, 0, 0, 0, 0, 0xFFFF, high, low] =>
      "::ffff:" ++ octetsText
        ([high, low].flatMap (fun g => [UInt8.ofNat (g.toNat / 256), UInt8.ofNat g.toNat]))
  | .v6 groups =>
      let (start, length) := longestZeros groups
      if 1 < length then
        groupsText (groups.take start) ++ "::" ++ groupsText (groups.drop (start + length))
      else groupsText groups

/-- The text of an address with a port. -/
def withPort (a : IpAddress) (port : UInt16) : String :=
  match a with
  | .v4 _ => a.text ++ ":" ++ toString port.toNat
  | .v6 _ => "[" ++ a.text ++ "]:" ++ toString port.toNat

end IpAddress

end EstateFiling
