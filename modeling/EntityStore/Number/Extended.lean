/-!
# Numbers with a 64-bit significand

Decimal text and binary numbers are converted into each other by scaling: the number is
multiplied by powers of ten, each product being kept to 64 significant bits.  This module has
that arithmetic, on exact integers.  An `Extended` is a non-negative number
`significand * 2 ^ exponent`; `keep` is the one place where anything is rounded.
-/

namespace EntityStore

/-- The number `significand * 2 ^ exponent`. -/
structure Extended where
  significand : Nat
  exponent : Int
  deriving DecidableEq, Repr

namespace Extended

/-! ## 1. Rounding -/

/-- `n / 2 ^ drop`, rounded to the nearest integer, and to the even one of two nearest. -/
def roundHalfEven (n drop : Nat) : Nat :=
  let quotient := n >>> drop
  let rest := n - quotient <<< drop
  if 2 * rest < 1 <<< drop then quotient
  else if 2 * rest = 1 <<< drop then quotient + quotient % 2
  else quotient + 1

/-- `n * 2 ^ exponent`, rounded to `width` significant bits. -/
def keep (width n : Nat) (exponent : Int) : Extended :=
  let drop := n.log2 + 1 - width
  if drop = 0 then ⟨n, exponent⟩ else ⟨roundHalfEven n drop, exponent + drop⟩

/-- The 64 significant bits of `num / den`.  Two more bits than needed are divided out, and
a last one says whether anything is left over, so that rounding sees the exact quotient. -/
def ofRatio (num den : Nat) : Extended :=
  let shift := 66 + den.log2 - num.log2
  let scaled := num <<< shift
  let quotient := scaled / den
  let leftOver := if scaled % den = 0 then 0 else 1
  keep 64 (2 * quotient + leftOver) (-(shift + 1 : Nat))

/-- A natural number, kept to 64 bits. -/
def ofNat (n : Nat) : Extended :=
  keep 64 n 0

/-- The power of ten `10 ^ k`. -/
def tenTo (k : Nat) : Extended :=
  ofNat (Nat.pow 10 k)

/-- The negative power of ten `10 ^ -k`. -/
def tenthTo (k : Nat) : Extended :=
  ofRatio 1 (Nat.pow 10 k)

/-! ## 2. Products and comparison -/

/-- The product of two numbers, kept to 64 bits. -/
def mul (a b : Extended) : Extended :=
  keep 64 (a.significand * b.significand) (a.exponent + b.exponent)

instance : Mul Extended := ⟨mul⟩

/-- `a * factor * ... * factor`, with `times` factors. -/
def mulPow (a factor : Extended) : Nat → Extended
  | 0 => a
  | times + 1 => mulPow (a * factor) factor times

/-- Whether `a ≤ b`, decided on a common exponent. -/
def le (a b : Extended) : Bool :=
  let common := min a.exponent b.exponent
  a.significand <<< (a.exponent - common).toNat ≤ b.significand <<< (b.exponent - common).toNat

/-- The integer part. -/
def floor (a : Extended) : Nat :=
  if 0 ≤ a.exponent then a.significand <<< a.exponent.toNat
  else a.significand >>> (-a.exponent).toNat

end Extended

end EntityStore
