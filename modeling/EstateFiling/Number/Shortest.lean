import EstateFiling.Number.Reading

/-!
# The text of a number

An integer is written in digits.  A double is written with the fewest digits
that read back as the same double, and of those the ones nearest to it.  The
digits are placed positionally, with at least one digit on each side of the
point, when the value is at least `10 ^ -5` and below `10 ^ 16`; otherwise an
exponent with its sign follows the first digit.  Zero is `0.0` or `-0.0`.
-/

namespace EstateFiling

/-- A decimal `digits · 10 ^ power`. -/
structure Decimal where
  /-- The significant digits, as a number. -/
  digits : Nat
  /-- The power of ten. -/
  power : Int
deriving DecidableEq, Repr

namespace Binary64

/-! ## The interval of reals that round to a double -/

/-- The reals that round to a positive double, over one denominator: the value
is `value / unit`, the ends are `low / unit` and `high / unit`, and the ends
belong to the interval when `closed`. -/
structure Interval where
  /-- The value. -/
  value : Nat
  /-- The lower end. -/
  low : Nat
  /-- The upper end. -/
  high : Nat
  /-- The common denominator. -/
  unit : Nat
  /-- Whether the ends round to the double too. -/
  closed : Bool

/-- The interval of a double that is not zero.  Below a power of two the
neighbouring doubles are twice as dense. -/
def interval (x : Binary64) : Interval :=
  let narrow := x.mantissa == 0x10000000000000 && -1074 < x.exponent
  let value := 4 * x.mantissa
  let low := value - (if narrow then 1 else 2)
  let (factor, unit) :=
    if 0 ≤ x.exponent then (Nat.pow 2 x.exponent.toNat, 4)
    else (1, 4 * Nat.pow 2 (-x.exponent).toNat)
  { value := value * factor
    low := low * factor
    high := (value + 2) * factor
    unit := unit
    closed := x.mantissa % 2 == 0 }

/-- Whether the decimal `n · 10 ^ power` lies in an interval. -/
def Interval.holds (i : Interval) (n : Nat) (power : Int) : Bool :=
  let (left, scale) :=
    if 0 ≤ power then (n * Nat.pow 10 power.toNat * i.unit, 1)
    else (n * i.unit, Nat.pow 10 (-power).toNat)
  let low := i.low * scale
  let high := i.high * scale
  (low < left && left < high) || (i.closed && (left == low || left == high))

/-- The multiple of `10 ^ power` next below the value, with the distance from it
and to the next multiple, both in one unit. -/
def Interval.neighbours (i : Interval) (power : Int) : Nat × Nat × Nat :=
  let (num, den) :=
    if 0 ≤ power then (i.value, i.unit * Nat.pow 10 power.toNat)
    else (i.value * Nat.pow 10 (-power).toNat, i.unit)
  (num / den, num % den, den - num % den)

/-- The decimal of the grid `10 ^ power` in the interval that is nearest to the
value, if there is one. -/
def Interval.decimalAt? (i : Interval) (power : Int) : Option Decimal :=
  let (below, down, up) := i.neighbours power
  let belowHolds := below != 0 && i.holds below power
  let aboveHolds := i.holds (below + 1) power
  if belowHolds && aboveHolds then
    if down < up || (down == up && below % 2 == 0) then some ⟨below, power⟩
    else some ⟨below + 1, power⟩
  else if belowHolds then some ⟨below, power⟩
  else if aboveHolds then some ⟨below + 1, power⟩
  else none

/-- The power of ten of the first digit of the value: the largest one not above
the value. -/
def Interval.leadingPower (i : Interval) : Int :=
  let whole := i.value / i.unit
  if 0 < whole then ((Nat.toDigits 10 whole).length : Int) - 1
  else
    let inverse := (i.unit - 1) / i.value
    Int.negOfNat (Nat.toDigits 10 inverse).length

/-- The fewest digits, at most 17, that read back as a double that is not zero,
and of those the nearest to it. -/
def shortest (x : Binary64) : Decimal :=
  let i := x.interval
  let top := i.leadingPower
  match (List.range 18).findSome? (fun (k : Nat) => i.decimalAt? (top + 1 - (k : Int))) with
  | some d => d
  | none => ⟨0, 0⟩

end Binary64

/-! ## Writing -/

/-- A decimal without trailing zeros in its digits. -/
def Decimal.stripped (d : Decimal) : Decimal :=
  let zeros := ((Nat.toDigits 10 d.digits).reverse.takeWhile (· == '0')).length
  if d.digits == 0 then d else ⟨d.digits / Nat.pow 10 zeros, d.power + zeros⟩

/-- The text of a positive decimal. -/
def Decimal.text (d : Decimal) : List Char :=
  let digits := Nat.toDigits 10 d.digits
  let point : Int := (digits.length : Int) + d.power
  if 0 ≤ d.power && point ≤ 16 then
    digits ++ List.replicate d.power.toNat '0' ++ ['.', '0']
  else if 0 < point && point ≤ 16 then
    digits.take point.toNat ++ '.' :: digits.drop point.toNat
  else if -5 < point && point ≤ 0 then
    ['0', '.'] ++ List.replicate (-point).toNat '0' ++ digits
  else
    let exponent := point - 1
    let mantissa := match digits with
      | [] => []
      | [c] => [c]
      | c :: rest => c :: '.' :: rest
    mantissa ++ ['e', if exponent < 0 then '-' else '+']
      ++ Nat.toDigits 10 exponent.natAbs

/-- The text of a double. -/
def Binary64.text (x : Binary64) : String :=
  let magnitude := if x.isZero then ['0', '.', '0'] else x.shortest.stripped.text
  String.ofList (if x.negative then '-' :: magnitude else magnitude)

/-- The text of an integer. -/
def intText (n : Int) : String :=
  String.ofList (if n < 0 then '-' :: Nat.toDigits 10 n.natAbs else Nat.toDigits 10 n.natAbs)

/-- The text of a number. -/
def Number.text : Number → String
  | .integer n => intText n
  | .double x => x.text

end EstateFiling
