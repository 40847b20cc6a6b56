import EntityStore.Number.Binary64
/-!
# Decimal text of a number

Where a number is stored as text it is written with at most fifteen significant digits.  A
number from `0.0001` up to below `10 ^ 15` is written positionally, any other with an exponent
of at least two digits; there is always a point, with at least one digit after it.
-/

namespace EntityStore.Rendering

/-! ## 1. Significant digits -/

/-- Multiplies by a factor as long as `again` asks for it, counting the steps.  The count of
remaining steps bounds the recursion; a double needs fewer than forty. -/
def repeatWhile (again : Extended → Bool) (factor : Extended) : Nat → Extended → Nat × Extended
  | 0, x => (0, x)
  | steps + 1, x =>
    if again x then
      let (count, y) := repeatWhile again factor steps (x * factor)
      (count + 1, y)
    else (0, x)

/-- Scales a positive number to between `10 ^ 17` and `10 ^ 19`; the result is the scaled number
and the power of ten that it has to be multiplied by to get the old one. -/
def normalize (x : Extended) : Extended × Int :=
  if Extended.le (.tenTo 19) x then
    let (hundreds, x) := repeatWhile (Extended.le (.tenTo 119)) (.tenthTo 100) 4 x
    let (tens, x) := repeatWhile (Extended.le (.tenTo 29)) (.tenthTo 10) 12 x
    let (ones, x) := repeatWhile (Extended.le (.tenTo 19)) (.tenthTo 1) 12 x
    (x, 100 * hundreds + 10 * tens + ones)
  else
    let (hundreds, x) := repeatWhile (fun y => !Extended.le (.tenthTo 97) y) (.tenTo 100) 4 x
    let (tens, x) := repeatWhile (fun y => !Extended.le (.tenTo 7) y) (.tenTo 10) 12 x
    let (ones, x) := repeatWhile (fun y => !Extended.le (.tenTo 17) y) (.tenTo 1) 12 x
    (x, -(100 * hundreds + 10 * tens + ones : Nat))

/-- How many significant digits are written. -/
def precision : Nat :=
  15

/-- The decimal digits of a number, without final zeros, and the place of the point: the number
is `0.d1d2d3... * 10 ^ point`. -/
structure Digits where
  digits : List Char
  point : Int
  deriving DecidableEq, Repr

/-- Removes final zeros. -/
def trimZeros (digits : List Char) : List Char :=
  (digits.reverse.dropWhile (· = '0')).reverse

/-- The significant digits of a positive number; a half in the first place left out goes up. -/
def significant (x : Extended) : Digits :=
  let (scaled, power) := normalize x
  let all := scaled.floor
  let places := (Nat.toDigits 10 all).length
  let point : Int := places + power
  if places ≤ precision then ⟨trimZeros (Nat.toDigits 10 all), point⟩
  else
    let unit := Nat.pow 10 (places - precision)
    let kept := (all / (unit / 10) + 5) / 10
    let digits := Nat.toDigits 10 kept
    ⟨trimZeros digits, point + (digits.length - precision : Nat)⟩

/-! ## 2. Layout -/

/-- A fraction part is never empty. -/
def orZero (digits : List Char) : List Char :=
  if digits.isEmpty then ['0'] else digits

/-- Positional notation. -/
def positional (d : Digits) : List Char :=
  if d.point ≤ 0 then
    ['0', '.'] ++ List.replicate (-d.point).toNat '0' ++ d.digits
  else
    let before := d.point.toNat
    d.digits.take before ++ List.replicate (before - d.digits.length) '0' ++
      '.' :: orZero (d.digits.drop before)

/-- The exponent with its sign and at least two digits. -/
def exponentText (exponent : Int) : List Char :=
  let digits := Nat.toDigits 10 exponent.natAbs
  (if exponent < 0 then '-' else '+') :: (if digits.length < 2 then '0' :: digits else digits)

/-- Notation with an exponent. -/
def exponential (d : Digits) : List Char :=
  d.digits.take 1 ++ '.' :: orZero (d.digits.drop 1) ++ 'e' :: exponentText (d.point - 1)

/-- The digits of a positive number, laid out. -/
def layOut (d : Digits) : List Char :=
  if d.point < -3 || (precision : Int) < d.point then exponential d else positional d

/-- The text of a double. -/
def real (x : Binary64) : String :=
  if x.isNaN then "NaN"
  else if x.magnitude = 0 then "0.0"
  else
    let sign := if x.isNegative then "-" else ""
    if x.isInfinite then sign ++ "Inf"
    else sign ++ String.ofList (layOut (significant x.absolute))

/-- The text of an integer. -/
def integer (n : Int64) : String :=
  let digits := String.ofList (Nat.toDigits 10 n.toInt.natAbs)
  if n.toInt < 0 then "-" ++ digits else digits

end EntityStore.Rendering
