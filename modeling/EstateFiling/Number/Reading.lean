import EstateFiling.Number.Double
import EstateFiling.Text.Ascii

/-!
# Reading decimal numbers

A number is an optional minus sign, an integer part without superfluous leading
zeros, and optionally a fraction and an exponent.

* An integer in the range of 64 bits, signed or unsigned, is kept exactly.  The
  text `-0` is the double negative zero.
* Anything else is a double.  Its significand is the longest run of leading
  digits that fits 64 bits; further digits of the integer part count in the
  exponent only, and further digits of the fraction are dropped.  The
  significand is rounded to a double and scaled by one multiplication or
  division with the double nearest to the power of ten; below `10 ^ -308` it
  takes two divisions, and below `10 ^ -616` nothing but zero is left.

A number whose magnitude is beyond the doubles is refused.
-/

namespace EstateFiling

/-- A number as data holds it. -/
inductive Number where
  /-- An integer from `-2 ^ 63` to `2 ^ 64 - 1`. -/
  | integer (n : Int)
  /-- A double. -/
  | double (x : Binary64)
deriving DecidableEq, Repr, Inhabited

namespace Number

/-! ## The parts of a written number -/

/-- A number as it is written. -/
structure Written where
  /-- Whether it has a minus sign. -/
  negative : Bool
  /-- The digits before the point. -/
  whole : List Char
  /-- The digits after the point, if there is one. -/
  fraction : Option (List Char)
  /-- The sign and the digits of the exponent, if there is one. -/
  exponent : Option (Bool × List Char)

/-- The digits at the front, and the rest. -/
def spanDigits (cs : List Char) : List Char × List Char :=
  (cs.takeWhile Char.isDigit, cs.dropWhile Char.isDigit)

/-- Takes the exponent at the front; without the letter there is none. -/
def Written.takeExponent? : List Char → Option (Option (Bool × List Char) × List Char)
  | [] => some (none, [])
  | e :: rest =>
      if e != 'e' && e != 'E' then some (none, e :: rest)
      else
        let (negative, unsigned) := match rest with
          | '-' :: ds => (true, ds)
          | '+' :: ds => (false, ds)
          | ds => (false, ds)
        let (digits, after) := spanDigits unsigned
        if digits.isEmpty then none else some (some (negative, digits), after)

/-- Takes the fraction at the front; without the point there is none. -/
def Written.takeFraction? : List Char → Option (Option (List Char) × List Char)
  | '.' :: rest =>
      let (digits, after) := spanDigits rest
      if digits.isEmpty then none else some (some digits, after)
  | cs => some (none, cs)

/-- Takes the number at the front, and what follows it. -/
def Written.take? (cs : List Char) : Option (Written × List Char) := do
  let (negative, unsigned) := match cs with
    | '-' :: rest => (true, rest)
    | _ => (false, cs)
  let (whole, afterWhole) := spanDigits unsigned
  if whole.isEmpty || (1 < whole.length && whole.head? == some '0') then none
  else
    let (fraction, afterFraction) ← takeFraction? afterWhole
    let (exponent, after) ← takeExponent? afterFraction
    some (⟨negative, whole, fraction, exponent⟩, after)

/-! ## Its value -/

/-- A significand and the power of ten it stands before. -/
structure Significand where
  /-- The significand. -/
  value : Nat
  /-- The power of ten. -/
  power : Int
  /-- Whether a digit no longer fitted. -/
  full : Bool

/-- Takes one more digit of the integer part. -/
def Significand.wholeDigit (s : Significand) (d : Char) : Significand :=
  let next := 10 * s.value + (d.toNat - 48)
  if s.full || 0x10000000000000000 ≤ next then { s with power := s.power + 1, full := true }
  else { s with value := next }

/-- Takes one more digit of the fraction. -/
def Significand.fractionDigit (s : Significand) (d : Char) : Significand :=
  let next := 10 * s.value + (d.toNat - 48)
  if s.full || 0x10000000000000000 ≤ next then { s with full := true }
  else { s with value := next, power := s.power - 1 }

/-- The double nearest to a power of ten up to `10 ^ 308`. -/
def powerOfTen (n : Nat) : Binary64 :=
  match Binary64.ofNat (Nat.pow 10 n) with
  | .finite x => x
  | _ => Binary64.zero

/-- Scales a double by a power of ten. -/
def scaleByTen (x : Binary64) (power : Int) : Option Binary64 :=
  let finite? : Double → Option Binary64 := fun
    | .finite y => some y
    | _ => none
  if x.isZero then some x
  else if 308 < power then none
  else if 0 ≤ power then finite? (x.mul (powerOfTen power.toNat))
  else if -308 ≤ power then finite? (x.div (powerOfTen (-power).toNat))
  else if power < -616 then some { Binary64.zero with negative := x.negative }
  else do
    let y ← finite? (x.div (powerOfTen 308))
    finite? (y.div (powerOfTen (-power - 308).toNat))

/-- The value of a written number, if it is in range. -/
def Written.value? (w : Written) : Option Number := do
  let significand := w.whole.foldl Significand.wholeDigit ⟨0, 0, false⟩
  if w.fraction.isNone && w.exponent.isNone && !significand.full
      && (if w.negative then 0 < significand.value && significand.value ≤ 0x8000000000000000
        else true) then
    some (.integer (if w.negative then -(significand.value : Int) else significand.value))
  else
    let withFraction := match w.fraction with
      | some ds => ds.foldl Significand.fractionDigit { significand with full := false }
      | none => significand
    let shift : Int := match w.exponent with
      | some (true, ds) => -(Text.digitsValue ds : Int)
      | some (false, ds) => Text.digitsValue ds
      | none => 0
    let x ← match Binary64.ofNat withFraction.value with
      | .finite x => some x
      | _ => none
    let scaled ← scaleByTen x (withFraction.power + shift)
    some (.double { scaled with negative := w.negative })

/-! ## Views -/

/-- The value of a number that is an integer from `0` to `2 ^ 64 - 1`. -/
def natural? : Number → Option Nat
  | .integer n => if 0 ≤ n then some n.toNat else none
  | .double _ => none

/-- The value of a number that is an integer. -/
def integer? : Number → Option Int
  | .integer n => some n
  | .double _ => none

/-- The double nearest to a number. -/
def toDouble : Number → Double
  | .integer n => Binary64.ofInt n
  | .double x => .finite x

end Number

end EstateFiling
