import EntityStore.Number.Binary64
/-!
# Decimal numerals

Text that is wholly a decimal numeral counts as a number where a number is wanted.  A numeral
is an optional sign, digits with an optional point among them, and an optional exponent, with
blanks around it:

    blanks [+|-] digits [. digits] [(e|E) [+|-] digits] blanks

with at least one digit before the exponent.  `read?` gives the number it stands for.  A
numeral without point and exponent is exact when it fits an integer of 64 bits; every other is
read as a double, and becomes an integer again when it is one.
-/

namespace EntityStore

/-- An integer of 64 bits or a double. -/
inductive Number where
  | integer (n : Int64)
  | real (x : Binary64)
  deriving DecidableEq, Repr

namespace Number

/-- A double, as an integer when it is one. -/
def simplify (x : Binary64) : Number :=
  match x.toInt64? with
  | some n => .integer n
  | none => .real x

end Number

/-- The parts of a numeral: its sign, the digits on both sides of the point, and its exponent.
`whole` is a numeral without point and exponent. -/
structure Numeral where
  negative : Bool
  digits : List Char
  decimals : List Char
  exponent : Int
  whole : Bool
  deriving DecidableEq, Repr

namespace Numeral

/-! ## 1. The parts of the text -/

/-- The characters that may stand around a numeral. -/
def isBlank (c : Char) : Bool :=
  c = ' ' || (9 ≤ c.toNat && c.toNat ≤ 13)

/-- The value of a digit. -/
def digitValue (c : Char) : Nat :=
  c.toNat - '0'.toNat

/-- The value of a sequence of digits. -/
def digitsValue (digits : List Char) : Nat :=
  digits.foldl (fun n c => 10 * n + digitValue c) 0

/-- Takes a sign off the front; no sign is a plus. -/
def splitSign : List Char → Bool × List Char
  | '-' :: rest => (true, rest)
  | '+' :: rest => (false, rest)
  | rest => (false, rest)

/-- Exponents are read up to this size; the number is zero or infinite long before. -/
def exponentLimit : Nat :=
  10000

/-- The value of the digits of an exponent.  Past the limit further digits change nothing. -/
def exponentValue (digits : List Char) : Nat :=
  digits.foldl (fun n c => if n < exponentLimit then 10 * n + digitValue c else exponentLimit) 0

/-- Reads what follows the digits: an exponent or nothing. `none` when the exponent has no
digits or something else follows. -/
def exponent? : List Char → Option (Option Int)
  | [] => some none
  | c :: rest =>
    if c = 'e' || c = 'E' then
      let (negative, digits) := splitSign rest
      if digits.isEmpty || !digits.all Char.isDigit then none
      else
        let size : Int := exponentValue digits
        some (some (if negative then -size else size))
    else none

/-- Takes a text apart, when it is a numeral. -/
def ofChars? (text : List Char) : Option Numeral :=
  let body := ((text.dropWhile isBlank).reverse.dropWhile isBlank).reverse
  let (negative, unsigned) := splitSign body
  let digits := unsigned.takeWhile Char.isDigit
  let (decimals, rest, pointed) :=
    match unsigned.dropWhile Char.isDigit with
    | '.' :: rest => (rest.takeWhile Char.isDigit, rest.dropWhile Char.isDigit, true)
    | rest => ([], rest, false)
  if digits.isEmpty && decimals.isEmpty then none
  else
    match exponent? rest with
    | none => none
    | some exponent =>
      some ⟨negative, digits, decimals, exponent.getD 0, !pointed && exponent.isNone⟩

/-! ## 2. The value -/

/-- A significand takes further digits while it is below this limit, so that it stays below
`2 ^ 64`. -/
def significandLimit : Nat :=
  (UInt64.size - 10) / 10

/-- Adds the digits before the point to a significand and its power of ten. -/
def addDigit (acc : Nat × Int) (c : Char) : Nat × Int :=
  if acc.1 < significandLimit then (10 * acc.1 + digitValue c, acc.2) else (acc.1, acc.2 + 1)

/-- Adds the digits after the point. -/
def addDecimal (acc : Nat × Int) (c : Char) : Nat × Int :=
  if acc.1 < significandLimit then (10 * acc.1 + digitValue c, acc.2 - 1) else acc

/-- Moves a positive power of ten into the significand, as far as that fits in 64 bits. -/
def absorb (significand : Nat) : Nat → Nat × Nat
  | 0 => (significand, 0)
  | power + 1 =>
    if significand < (UInt64.size - 1) / 10 then absorb (10 * significand) power
    else (significand, power + 1)

/-- Moves final zeros of the significand into a negative power of ten. -/
def release (significand : Nat) : Nat → Nat × Nat
  | 0 => (significand, 0)
  | power + 1 =>
    if significand % 10 = 0 then release (significand / 10) power else (significand, power + 1)

/-- `x` times a power of ten, a hundred, ten and one places at a time. -/
def scaleUp (x : Extended) (power : Nat) : Extended :=
  ((x.mulPow (.tenTo 100) (power / 100)).mulPow (.tenTo 10) (power % 100 / 10)).mulPow
    (.tenTo 1) (power % 10)

/-- `x` divided by a power of ten, in the same steps. -/
def scaleDown (x : Extended) (power : Nat) : Extended :=
  ((x.mulPow (.tenthTo 100) (power / 100)).mulPow (.tenthTo 10) (power % 100 / 10)).mulPow
    (.tenthTo 1) (power % 10)

/-- `significand * 10 ^ power`, by scaling. -/
def scale (significand : Nat) (power : Int) : Extended :=
  if 0 ≤ power then
    let (significand, power) := absorb significand power.toNat
    scaleUp (.ofNat significand) power
  else
    let (significand, power) := release significand (-power).toNat
    scaleDown (.ofNat significand) power

/-- The double that a numeral stands for; past the largest finite one it is an infinity. -/
def toReal (n : Numeral) : Binary64 :=
  let (significand, power) := n.decimals.foldl addDecimal (n.digits.foldl addDigit (0, 0))
  if significand = 0 then .ofMagnitude n.negative 0
  else
    let value := scale significand (n.exponent + power)
    if value.le Binary64.largest then .ofExtended n.negative value
    else .ofMagnitude n.negative Binary64.infiniteMagnitude

/-- The integer that a numeral without point and exponent stands for. -/
def toInt (n : Numeral) : Int :=
  let size : Int := digitsValue n.digits
  if n.negative then -size else size

/-- The number that a numeral stands for. -/
def toNumber (n : Numeral) : Number :=
  if n.whole && Int64.minValue.toInt ≤ n.toInt && n.toInt ≤ Int64.maxValue.toInt then
    .integer (Int64.ofInt n.toInt)
  else .simplify n.toReal

/-- The number that a text stands for, when it is a numeral. -/
def read? (text : String) : Option Number :=
  (ofChars? text.toList).map toNumber

end Numeral

end EntityStore
