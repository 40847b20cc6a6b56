import EntityStore.Number.Extended
/-!
# Binary numbers of 64 bits

A `Binary64` is the bit pattern of an IEEE 754 double: a sign, eleven bits of exponent and
fifty-two of fraction.  Every finite one is a whole multiple of `2 ^ -1074`, and so is every
integer; `scaled` is that multiple.  Numbers are compared through it, exactly and without
rounding, whether they are integers or not.
-/

namespace EntityStore

/-- The bit pattern of an IEEE 754 double. -/
structure Binary64 where
  bits : UInt64
  deriving DecidableEq, Repr

namespace Binary64

/-! ## 1. Fields -/

/-- The sign bit. -/
def isNegative (x : Binary64) : Bool :=
  1 <<< 63 ≤ x.bits.toNat

/-- The bits without the sign. -/
def magnitude (x : Binary64) : Nat :=
  x.bits.toNat % (1 <<< 63)

/-- The magnitude of the infinities; what lies above it is no number. -/
def infiniteMagnitude : Nat :=
  2047 <<< 52

/-- Whether the pattern stands for no number. -/
def isNaN (x : Binary64) : Bool :=
  infiniteMagnitude < x.magnitude

/-- Whether the pattern stands for an infinity. -/
def isInfinite (x : Binary64) : Bool :=
  x.magnitude = infiniteMagnitude

/-- The absolute value of a finite number. -/
def absolute (x : Binary64) : Extended :=
  let field : Nat := x.magnitude >>> 52
  let fraction : Nat := x.magnitude % (1 <<< 52)
  if field = 0 then ⟨fraction, -1074⟩ else ⟨(1 <<< 52) + fraction, (field : Int) - 1075⟩

/-- The pattern with the given sign and magnitude. -/
def ofMagnitude (negative : Bool) (magnitude : Nat) : Binary64 :=
  ⟨UInt64.ofNat (if negative then (1 <<< 63) + magnitude else magnitude)⟩

/-- Zero without a sign. -/
def zero : Binary64 :=
  ofMagnitude false 0

/-! ## 2. Rounding to a pattern -/

/-- The double nearest to `x`, the even one of two nearest, with the given sign; an infinity
when `x` is past the largest. -/
def ofExtended (negative : Bool) (x : Extended) : Binary64 :=
  if x.significand = 0 then ofMagnitude negative 0
  else
    let top : Int := x.significand.log2 + x.exponent
    let last := max (top - 52) (-1074)
    let significand :=
      if last ≤ x.exponent then x.significand <<< (x.exponent - last).toNat
      else Extended.roundHalfEven x.significand (last - x.exponent).toNat
    ofMagnitude negative (min (((last + 1074).toNat <<< 52) + significand) infiniteMagnitude)

/-- The double nearest to an integer. -/
def ofInt (n : Int) : Binary64 :=
  ofExtended (n < 0) ⟨n.natAbs, 0⟩

/-- The largest finite magnitude, as a number. -/
def largest : Extended :=
  ⟨(1 <<< 53) - 1, 971⟩

/-! ## 3. Exact values -/

/-- How many times `2 ^ -1074` goes into one. -/
def unitsPerOne : Int :=
  (1 <<< 1074 : Nat)

/-- The number as a multiple of `2 ^ -1074`; the infinities lie beyond every finite number. -/
def scaled (x : Binary64) : Int :=
  let size : Nat :=
    if x.isInfinite then 1 <<< 2200
    else x.absolute.significand <<< (x.absolute.exponent + 1074).toNat
  if x.isNegative then -(size : Int) else size

/-- The integer that `x` is, when it is one strictly between the limits of 64-bit integers. -/
def toInt64? (x : Binary64) : Option Int64 :=
  let whole := x.scaled / unitsPerOne
  if x.scaled % unitsPerOne = 0 && Int64.minValue.toInt < whole &&
      whole ≤ Int64.maxValue.toInt then
    some (Int64.ofInt whole)
  else none

end Binary64

end EntityStore
