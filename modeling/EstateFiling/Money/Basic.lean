import EstateFiling.Number.Double

/-!
# Money

An amount is a whole number of cents in the range of a signed 64-bit word, from
`-2 ^ 63` up to but not including `2 ^ 63`.  The range is part of the type.
Amounts read from records are never negative; sums and differences stop at the
ends of the range.
-/

namespace EstateFiling

/-- An amount of money in whole cents. -/
@[ext]
structure Money where
  /-- The cents. -/
  cents : Int
  /-- The amount is not below the range. -/
  lower : -0x8000000000000000 ≤ cents
  /-- The amount is not above the range. -/
  upper : cents < 0x8000000000000000
deriving DecidableEq

namespace Money

/-- No money. -/
def zero : Money := ⟨0, by decide, by decide⟩

instance : Inhabited Money := ⟨zero⟩

/-- The largest amount. -/
def maximum : Money := ⟨0x7fffffffffffffff, by decide, by decide⟩

/-- An amount of cents, if it is in range. -/
def ofCents? (cents : Int) : Option Money :=
  if h : -0x8000000000000000 ≤ cents ∧ cents < 0x8000000000000000 then some ⟨cents, h.1, h.2⟩
  else none

/-- The amount in range that is nearest to a number of cents. -/
def clamp (cents : Int) : Money :=
  ⟨max (-0x8000000000000000) (min cents 0x7fffffffffffffff), by omega, by omega⟩

/-- An amount of whole dollars, if it is in range. -/
def ofDollars? (dollars : Int) : Option Money := ofCents? (100 * dollars)

/-- Whether an amount is below zero. -/
def isNegative (m : Money) : Bool := m.cents < 0

/-- The sum, held within the range. -/
def add (a b : Money) : Money := clamp (a.cents + b.cents)

/-- The difference, held within the range. -/
def sub (a b : Money) : Money := clamp (a.cents - b.cents)

instance : Add Money := ⟨add⟩

instance : Sub Money := ⟨sub⟩

/-- The sum of a list, added from the left and held within the range at every
step. -/
def sum (ms : List Money) : Money := ms.foldl add zero

instance : Ord Money := ⟨fun a b => compare a.cents b.cents⟩

/-! ## Amounts of dollars as doubles -/

/-- The cents of a double that counts dollars: the product with one hundred,
rounded as doubles are, then to the nearest cent, a half going up.  Negative
values and values above `2 ^ 63` cents are refused; `2 ^ 63` cents count as the
largest amount. -/
def ofDouble? : Double → Option Money
  | .finite dollars =>
      if dollars.negative && !dollars.isZero then none
      else
        match dollars.mul ⟨false, 100, 0⟩ with
        | .finite cents =>
            if cents.roundedMagnitude ≤ 0x8000000000000000 then some (clamp cents.roundedMagnitude)
            else none
        | _ => none
  | _ => none

end Money

end EstateFiling
