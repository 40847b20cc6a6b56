import EntityStore.Value
import EntityStore.Number.Rendering
/-!
# Affinities

The type of a column does not restrict the values it holds; it converts them.  An `Affinity`
says how: `store` is the conversion of a value that is written into the column, `compare` the
conversion of a value that the column is compared with.  A value that cannot be converted is
kept as it is, and strings of bytes are never converted.
-/

namespace EntityStore

/-- The four kinds of values that an attribute or a column may be declared with. -/
inductive Kind where
  | integer
  | real
  | text
  | blob
  deriving DecidableEq, Repr

/-- The name of the type in a table definition. -/
def Kind.sqlType : Kind → String
  | .integer => "INTEGER"
  | .real => "REAL"
  | .text => "TEXT"
  | .blob => "BLOB"

/-- How a column converts values. -/
inductive Affinity where
  | integer
  | real
  | text
  | none
  deriving DecidableEq, Repr

namespace Affinity

/-- The affinity of a column declared with a type, or without one. -/
def ofType : Option Kind → Affinity
  | some .integer => .integer
  | some .real => .real
  | some .text => .text
  | some .blob => .none
  | Option.none => .none

/-! ## 1. The conversions -/

/-- A text that is a numeral becomes the number it stands for. -/
def toNumber : Value → Value
  | .text s => ((Numeral.read? s).map Value.ofNumber).getD (.text s)
  | value => value

/-- A number becomes its text. -/
def toText : Value → Value
  | .integer n => .text (Rendering.integer n)
  | .real x => .text (Rendering.real x)
  | value => value

/-- A real number that is an integer becomes that integer. -/
def toInteger : Value → Value
  | .real x => .ofNumber (.simplify x)
  | value => value

/-- An integer becomes the nearest real number; zero loses its sign. -/
def toReal : Value → Value
  | .integer n => .real (.ofInt n.toInt)
  | .real x => .real (if x.magnitude = 0 then .zero else x)
  | value => value

/-! ## 2. What a column does -/

/-- The value that a column holds after `value` is written into it. -/
def store (affinity : Affinity) (value : Value) : Value :=
  match affinity with
  | .integer => toInteger (toNumber value)
  | .real => toReal (toNumber value)
  | .text => toText value
  | .none => value

/-- The value that a column is compared with when it is compared with `value`. -/
def compare (affinity : Affinity) (value : Value) : Value :=
  match affinity with
  | .integer => toNumber value
  | .real => toNumber value
  | .text => toText value
  | .none => value

/-- Whether a column with this affinity that holds `held` matches a given value. -/
def matches? (affinity : Affinity) (held given : Value) : Bool :=
  held.equals (affinity.compare given)

end Affinity

end EntityStore
