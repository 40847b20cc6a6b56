import EntityStore.Store.Column
/-!
# Declarations

The declaration of a column is what stands after its name in the definition of a table: a type,
and then what is asked of the column's values, in a fixed order.

    INTEGER PRIMARY KEY AUTOINCREMENT
    TEXT NOT NULL UNIQUE ON CONFLICT IGNORE
    TEXT GENERATED ALWAYS AS ('none')
    INTEGER REFERENCES "item"("id") DEFERRABLE INITIALLY DEFERRED

Each part may be missing.
-/

namespace EntityStore

namespace Declaration

/-- The words of a declaration. -/
def words (text : String) : List String :=
  (text.splitOn " ").filter (· != "")

/-- Takes a type off the front. -/
def takeType : List String → Option Kind × List String
  | "INTEGER" :: rest => (some .integer, rest)
  | "REAL" :: rest => (some .real, rest)
  | "TEXT" :: rest => (some .text, rest)
  | "BLOB" :: rest => (some .blob, rest)
  | words => (none, words)

/-- Takes a phrase off the front, if it stands there. -/
def takePhrase (phrase words : List String) : Bool × List String :=
  if phrase.isPrefixOf words then (true, words.drop phrase.length) else (false, words)

/-- The table and the column that are written as two names between quotes, the second one also
between brackets. -/
def place? (text : String) : Option (String × String) :=
  match text.splitOn "\"" with
  | ["", table, "(", column, ")"] => some (table, column)
  | _ => none

/-- The text that is written between quotes and brackets. -/
def constant? (text : String) : Option Value :=
  match text.splitOn "'" with
  | ["(", value, ")"] => some (.text value)
  | _ => none

/-- Takes the value of a generated column off the front, if one stands there. -/
def takeGenerated? : List String → Option (Option Value × List String)
  | "GENERATED" :: "ALWAYS" :: "AS" :: value :: rest =>
    (constant? value).map fun value => (some value, rest)
  | words => some (none, words)

/-- Takes a reference off the front, if one stands there. -/
def takeReference? : List String → Option (Option Reference × List String)
  | "REFERENCES" :: place :: rest =>
    (place? place).map fun (table, column) =>
      let (deferred, rest) := takePhrase ["DEFERRABLE", "INITIALLY", "DEFERRED"] rest
      (some ⟨table, column, deferred⟩, rest)
  | words => some (none, words)

end Declaration

/-- The column with a name and a declaration. -/
def Column.ofDeclaration? (name declaration : String) : Option Column :=
  let (type, rest) := Declaration.takeType (Declaration.words declaration)
  let (primaryKey, rest) := Declaration.takePhrase ["PRIMARY", "KEY"] rest
  let (autoincrement, rest) := Declaration.takePhrase ["AUTOINCREMENT"] rest
  let (notNull, rest) := Declaration.takePhrase ["NOT", "NULL"] rest
  let (unique, rest) := Declaration.takePhrase ["UNIQUE"] rest
  let (ignoresRepeats, rest) :=
    if unique then Declaration.takePhrase ["ON", "CONFLICT", "IGNORE"] rest else (false, rest)
  match Declaration.takeGenerated? rest with
  | none => none
  | some (generated, rest) =>
    match Declaration.takeReference? rest with
    | some (reference, []) =>
      some ⟨name, type, primaryKey, autoincrement, notNull, unique, ignoresRepeats, generated,
        reference⟩
    | _ => none

end EntityStore
