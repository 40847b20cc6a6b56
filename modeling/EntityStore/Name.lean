/-!
# Names

Entities and attributes are named in camel case; their tables and columns are named in snake
case.  This module says which names are accepted, how a name is turned into the name of a
table or column, and when the store takes two names for the same one.

All letters, digits and cases here are those of ASCII: the accepted names hold nothing else,
and the store folds the case of ASCII letters only.
-/

namespace EntityStore.Name

/-! ## 1. Accepted names -/

/-- An ASCII letter followed by ASCII letters and digits. -/
def isValidChars : List Char → Bool
  | [] => false
  | c :: rest => c.isAlpha && rest.all Char.isAlphanum

/-- Whether `name` may name an entity or an attribute. -/
def isValid (name : String) : Bool :=
  isValidChars name.toList

/-! ## 2. Storage names -/

/-- A character after which a new word may begin: a lower-case letter or a digit. -/
def endsWord (c : Char) : Bool :=
  c.isLower || c.isDigit

/-- Writes an underscore into each boundary, from the left.  The two characters of a boundary
are consumed together, so the second of them is never the first of the next boundary. -/
def separateWords : List Char → List Char
  | a :: b :: rest =>
    if endsWord a && b.isUpper then a :: '_' :: b :: separateWords rest
    else a :: separateWords (b :: rest)
  | short => short

/-- The storage name of a name given by its characters. -/
def storageChars (name : List Char) : List Char :=
  (separateWords name).map Char.toLower

/-- The name of the table or column that stands for `name`: words are separated by underscores
and written in lower case. -/
def storage (name : String) : String :=
  String.ofList (storageChars name.toList)

/-! ## 3. Names as the store compares them -/

/-- A name with the case of its letters forgotten. -/
def fold (name : String) : List Char :=
  name.toList.map Char.toLower

/-- Whether the store takes two names for the same table, column or result. -/
def same (a b : String) : Bool :=
  fold a == fold b

@[simp] theorem same_refl (a : String) : same a a = true := by
  simp [same]

theorem same_comm (a b : String) : same a b = same b a := by
  simp [same, Bool.beq_comm]

end EntityStore.Name
