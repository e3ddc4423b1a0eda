/-!
# Doubles

A finite double is kept exactly, as a sign, a mantissa and a power of two.  The
operations are those of IEEE 754 binary64: the exact result is formed over the
naturals and rounded once, to the nearest double, a tie going to the even
mantissa.  `Binary64.ofRatio` is that rounding; product and quotient are one
call of it.

A double made by `ofRatio` is canonical: its mantissa is below `2 ^ 53`, and it
is at least `2 ^ 52` unless the exponent is the least one, `-1074`.
-/

namespace EstateFiling

/-- A finite double, `±mantissa · 2 ^ exponent`.  Zero has a sign. -/
structure Binary64 where
  /-- Whether the sign is minus. -/
  negative : Bool
  /-- The mantissa. -/
  mantissa : Nat
  /-- The power of two. -/
  exponent : Int
deriving DecidableEq, Repr, Inhabited

/-- A double. -/
inductive Double where
  /-- A finite double. -/
  | finite (x : Binary64)
  /-- An infinity. -/
  | infinite (negative : Bool)
  /-- Not a number. -/
  | nan
deriving DecidableEq, Repr

/-- The nearest natural to `num / den`, an exact half going to the even one. -/
def roundHalfEven (num den : Nat) : Nat :=
  let quotient := num / den
  let twice := 2 * (num % den)
  if twice < den then quotient
  else if den < twice then quotient + 1
  else quotient + quotient % 2

namespace Binary64

/-- Positive zero. -/
def zero : Binary64 := ⟨false, 0, -1074⟩

/-- Whether a double is a zero of either sign. -/
def isZero (x : Binary64) : Bool := x.mantissa == 0

/-- The double with the other sign. -/
def neg (x : Binary64) : Binary64 := { x with negative := !x.negative }

/-! ## Rounding -/

/-- The numerator and denominator of `num / den / 2 ^ exponent`. -/
def scaledRatio (num den : Nat) (exponent : Int) : Nat × Nat :=
  if 0 ≤ exponent then (num, den * Nat.pow 2 exponent.toNat)
  else (num * Nat.pow 2 (-exponent).toNat, den)

/-- The exponent of the doubles around `num / den`, which is not zero. -/
def gridExponent (num den : Nat) : Int :=
  let top : Int := (num.log2 : Int) - (den.log2 : Int)
  let (n, d) := scaledRatio num den top
  max (if d ≤ n then top - 52 else top - 53) (-1074)

/-- The double nearest to `num / den` with the given sign, infinite when it is
out of range. -/
def ofRatio (negative : Bool) (num den : Nat) : Double :=
  if num == 0 then .finite ⟨negative, 0, -1074⟩
  else
    let exponent := gridExponent num den
    let (n, d) := scaledRatio num den exponent
    let mantissa := roundHalfEven n d
    let (mantissa, exponent) :=
      if mantissa == 0x20000000000000 then (0x10000000000000, exponent + 1)
      else (mantissa, exponent)
    if 971 < exponent then .infinite negative else .finite ⟨negative, mantissa, exponent⟩

/-- The double nearest to a natural. -/
def ofNat (n : Nat) : Double := ofRatio false n 1

/-- The double nearest to an integer. -/
def ofInt (n : Int) : Double := ofRatio (n < 0) n.natAbs 1

/-! ## Arithmetic -/

/-- The product of two doubles. -/
def mul (x y : Binary64) : Double :=
  let (n, d) := scaledRatio (x.mantissa * y.mantissa) 1 (-(x.exponent + y.exponent))
  ofRatio (x.negative != y.negative) n d

/-- The quotient of two doubles, the second not zero. -/
def div (x y : Binary64) : Double :=
  let (n, d) := scaledRatio x.mantissa y.mantissa (y.exponent - x.exponent)
  ofRatio (x.negative != y.negative) n d

/-- The magnitude rounded to the nearest natural, an exact half going up. -/
def roundedMagnitude (x : Binary64) : Nat :=
  if 0 ≤ x.exponent then x.mantissa * Nat.pow 2 x.exponent.toNat
  else
    let unit := Nat.pow 2 (-x.exponent).toNat
    (2 * x.mantissa + unit) / (2 * unit)

end Binary64

end EstateFiling
