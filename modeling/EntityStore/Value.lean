import EntityStore.Number.Numeral
/-!
# Values

A value is what one column of one row holds: nothing, an integer, a real number, a text or a
string of bytes.  Values have an order across all kinds, used for sorting, and an equality that
does not tell an integer from the real number of the same size; `null` equals nothing, not even
itself.

Both are read off one comparison of numbers, through their common unit (`scaled`), so they are
exact however large or small the numbers are.
-/

namespace EntityStore

/-- What a column of a row holds. -/
inductive Value where
  | null
  | integer (n : Int64)
  | real (x : Binary64)
  | text (s : String)
  | blob (bytes : List UInt8)
  deriving DecidableEq, Repr, Inhabited

namespace Value

/-- The value of a number. -/
def ofNumber : Number → Value
  | .integer n => .integer n
  | .real x => .real x

/-- A bit pattern that stands for no number is passed to the store as `null`. -/
def bound : Value → Value
  | .real x => if x.isNaN then .null else .real x
  | value => value

/-! ## 1. Order -/

/-- A number as a multiple of the unit that all numbers share; `none` for other values. -/
def scaled? : Value → Option Int
  | .integer n => some (n.toInt * Binary64.unitsPerOne)
  | .real x => some x.scaled
  | _ => none

/-- The place of a value's kind in the order: `null`, numbers, texts, bytes. -/
def rank : Value → Nat
  | .null => 0
  | .integer _ => 1
  | .real _ => 1
  | .text _ => 2
  | .blob _ => 3

/-- Compares two strings of bytes. -/
def compareBytes : List UInt8 → List UInt8 → Ordering
  | [], [] => .eq
  | [], _ :: _ => .lt
  | _ :: _, [] => .gt
  | a :: as, b :: bs => (compare a.toNat b.toNat).then (compareBytes as bs)

/-- The order of values. -/
def order (a b : Value) : Ordering :=
  match a.scaled?, b.scaled? with
  | some m, some n => compare m n
  | _, _ =>
    match a, b with
    | .text s, .text t => compare s t
    | .blob s, .blob t => compareBytes s t
    | _, _ => compare a.rank b.rank

/-- Whether `a` may stand before `b` in a sorted list. -/
def precedes (a b : Value) : Bool :=
  order a b != .gt

/-! ## 2. Equality in the store -/

/-- Whether the store takes two values for equal. -/
def equals (a b : Value) : Bool :=
  match a, b with
  | .text s, .text t => s == t
  | .blob s, .blob t => s == t
  | _, _ =>
    match a.scaled?, b.scaled? with
    | some m, some n => m == n
    | _, _ => false

@[simp] theorem equals_null_right (v : Value) : equals v .null = false := by
  cases v <;> rfl

theorem equals_comm (a b : Value) : equals a b = equals b a := by
  cases a <;> cases b <;> simp [equals, scaled?, Bool.beq_comm]

/-! ## 3. Absent identifiers -/

/-- Values that say that an entity has no identifier yet: nothing, zero and the empty text. -/
def isAbsentIdentifier : Value → Bool
  | .null => true
  | .integer n => n == 0
  | .text s => s.isEmpty
  | _ => false

end Value

end EntityStore
