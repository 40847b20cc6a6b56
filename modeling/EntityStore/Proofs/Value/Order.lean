import EntityStore.Value
import Mathlib
/-!
# The order and the equality of values

Values are sorted by `precedes`, which is a total preorder: two numbers of the same size, such as
the integer and the real number one, each stand before the other.

Values are matched by `equals`.  It is an equivalence on all values but `null`, which equals
nothing.
-/

namespace EntityStore.Value

/-! ## 1. The order -/

/-- The number that a value is compared by; zero where it is no number. -/
def sortNumber (v : Value) : Int :=
  v.scaled?.getD 0

/-- The text that a value is compared by; empty where it is no text. -/
def sortText : Value → String
  | .text s => s
  | _ => ""

/-- The bytes that a value is compared by, as numbers; none where it is no string of bytes. -/
def sortBytes : Value → List Nat
  | .blob bytes => bytes.map UInt8.toNat
  | _ => []

theorem compareBytes_eq (as bs : List UInt8) :
    compareBytes as bs = compare (as.map UInt8.toNat) (bs.map UInt8.toNat) := by
  induction as generalizing bs with
  | nil => cases bs <;> rfl
  | cons a as ih =>
    cases bs with
    | nil => rfl
    | cons b bs => rw [compareBytes, ih, List.map_cons, List.map_cons, List.compare_cons_cons]

/-- **Values are compared by rank, number, text and bytes, in this order.**  At most one of the
last three differs from its default in either value. -/
theorem order_eq : order = compareLex (compareOn rank) (compareLex (compareOn sortNumber)
    (compareLex (compareOn sortText) (compareOn sortBytes))) := by
  funext a b
  cases a <;> cases b <;>
    simp [order, scaled?, rank, compareLex, compareOn, sortNumber, sortText, sortBytes,
      compareBytes_eq] <;> rfl

instance : Std.TransCmp order := by
  rw [order_eq]
  infer_instance

theorem precedes_trans (a b c : Value) (hab : precedes a b = true) (hbc : precedes b c = true) :
    precedes a c = true := by
  simp only [precedes, bne_iff_ne, ← Ordering.isLE_iff_ne_gt] at *
  exact Std.TransCmp.isLE_trans hab hbc

theorem precedes_total (a b : Value) : (precedes a b || precedes b a) = true := by
  have hswap : order b a = (order a b).swap := Std.OrientedCmp.eq_swap
  simp only [precedes, hswap]
  cases order a b <;> rfl

/-! ## 2. The equality -/

/-- A value that is not `null` equals itself. -/
theorem equals_self {v : Value} (h : v ≠ .null) : v.equals v = true := by
  cases v <;> simp_all [equals, scaled?]

theorem equals_trans {a b c : Value} (hab : a.equals b = true) (hbc : b.equals c = true) :
    a.equals c = true := by
  cases a <;> cases b <;> cases c <;>
    simp only [equals, scaled?, beq_iff_eq, Bool.false_eq_true] at hab hbc ⊢ <;>
    exact hab.trans hbc

theorem equals_symm {a b : Value} (h : a.equals b = true) : b.equals a = true :=
  equals_comm a b ▸ h

theorem unitsPerOne_pos : 0 < Binary64.unitsPerOne :=
  by decide

/-- Two integers are equal only if they are the same. -/
theorem equals_integer {m n : Int64} : equals (.integer m) (.integer n) = true ↔ m = n := by
  have hunit : Binary64.unitsPerOne ≠ 0 := Int.ne_of_gt unitsPerOne_pos
  simp only [equals, scaled?, beq_iff_eq]
  rw [Int.mul_eq_mul_right_iff hunit, Int64.toInt_inj]

end EntityStore.Value
