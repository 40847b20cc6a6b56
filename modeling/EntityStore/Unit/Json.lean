import EntityStore.Unit
import EntityStore.Json.Reader
/-!
# Units as JSON

A unit is written as an object with a member for each setting, in a fixed order and without
blanks:

    name, storage, busy_timeout_ms, foreign_keys, schema_mode

The storage is an object of its own: `kind` names it, and `path` says where a file is.

Reading takes more than is written.  Members may stand in any order, unknown ones are passed
over, the last three may be missing, and in place of an object there may be an array of the
values in their order.  No known member may stand in an object twice.
-/

namespace EntityStore

/-! ## 1. Writing -/

namespace Json

/-- A number in base ten. -/
def natural (n : Nat) : List Char :=
  Nat.toDigits 10 n

/-- A truth value. -/
def boolean (b : Bool) : List Char :=
  if b then "true".toList else "false".toList

/-- A member of an object, given the text of its value. -/
def member (key : String) (value : List Char) : List Char :=
  quote key.toList ++ ':' :: value

/-- Items between commas. -/
def separated : List (List Char) → List Char
  | [] => []
  | [item] => item
  | item :: rest => item ++ ',' :: separated rest

/-- An object, given the texts of its members. -/
def braced (members : List (List Char)) : List Char :=
  '\x7b' :: separated members ++ ['\x7d']

end Json

/-- The text of a storage. -/
def Storage.jsonText (s : Storage) : List Char :=
  let kind := Json.member "kind" (Json.quote s.label.toList)
  match s with
  | .file path => Json.braced [kind, Json.member "path" (Json.quote path.toList)]
  | _ => Json.braced [kind]

namespace PersistenceUnit

/-- The characters of the text of a unit. -/
def jsonText (u : PersistenceUnit) : List Char :=
  Json.braced [
    Json.member "name" (Json.quote u.name.toList),
    Json.member "storage" u.storage.jsonText,
    Json.member "busy_timeout_ms" (Json.natural u.busyTimeout),
    Json.member "foreign_keys" (Json.boolean u.foreignKeys),
    Json.member "schema_mode" (Json.quote u.schemaMode.label.toList)]

/-- The text of a unit. -/
def toJson (u : PersistenceUnit) : String :=
  String.ofList u.jsonText

end PersistenceUnit

/-! ## 2. Reading -/

namespace Json

/-- A text. -/
def string? : Json → Option String
  | .text s => s
  | _ => none

/-- A truth value. -/
def bool? : Json → Option Bool
  | .bool b => some b
  | _ => none

/-- A number written with digits alone and not above a limit. -/
def natural? (limit : Nat) : Json → Option Nat
  | .number digits =>
    if digits.all Char.isDigit && Nat.ofDigitChars 10 digits 0 ≤ limit then
      some (Nat.ofDigitChars 10 digits 0)
    else none
  | _ => none

/-- The name of one of several cases: a text, or the only member of an object, which has nothing
in it. -/
def case? : Json → Option String
  | .text s => s
  | .object [(key, .null)] => key
  | _ => none

/-- The members of an object under their keys, if each key is a text. -/
def keyed? : List (Option String × Json) → Option (List (String × Json))
  | [] => some []
  | (none, _) :: _ => none
  | (some key, value) :: rest => (keyed? rest).map ((key, value) :: ·)

/-- What an object has under a key, if anything; there must not be two members with the key. -/
def field? (members : List (String × Json)) (key : String) : Option (Option Json) :=
  match members.filter (·.1 == key) with
  | [] => some none
  | [(_, value)] => some (some value)
  | _ => none

/-- Reads a value, or takes one in the place of a missing value. -/
def orElse? {α : Type} (read : Json → Option α) (missing : α) : Option Json → Option α
  | none => some missing
  | some value => read value

end Json

/-- The schema mode with a name. -/
def SchemaMode.ofLabel? : String → Option SchemaMode
  | "create" => some .create
  | "validate" => some .validate
  | "none" => some .none
  | _ => Option.none

namespace Storage

/-- The storage of a kind.  Only a file has a path. -/
def ofParts? (kind : String) (path : Option Json) : Option Storage :=
  match kind, path with
  | "memory", none => some .memory
  | "memory", some .null => some .memory
  | "shared_memory", none => some .sharedMemory
  | "shared_memory", some .null => some .sharedMemory
  | "file", some path => path.string?.map .file
  | _, _ => none

/-- The storage of an object's members. -/
def ofMembers? (members : List (String × Json)) : Option Storage :=
  match Json.field? members "kind", Json.field? members "path" with
  | some (some kind), some path => kind.case?.bind fun kind => ofParts? kind path
  | _, _ => none

/-- Reads a storage. -/
def ofJson? : Json → Option Storage
  | .object members => (Json.keyed? members).bind ofMembers?
  | .array [kind, path] => kind.case?.bind fun kind => ofParts? kind (some path)
  | _ => none

end Storage

namespace PersistenceUnit

/-- The unit of its settings; the last three may be missing. -/
def ofParts? (name storage : Json) (timeout foreignKeys mode : Option Json) :
    Option PersistenceUnit :=
  match name.string?, Storage.ofJson? storage,
    Json.orElse? (Json.natural? maxTimeout) defaultTimeout timeout,
    Json.orElse? Json.bool? true foreignKeys,
    Json.orElse? (fun mode => mode.case?.bind SchemaMode.ofLabel?) .create mode with
  | some name, some storage, some timeout, some foreignKeys, some mode =>
    some ⟨name, storage, timeout, foreignKeys, mode⟩
  | _, _, _, _, _ => none

/-- The unit of an object's members. -/
def ofMembers? (members : List (String × Json)) : Option PersistenceUnit :=
  match Json.field? members "name", Json.field? members "storage",
    Json.field? members "busy_timeout_ms", Json.field? members "foreign_keys",
    Json.field? members "schema_mode" with
  | some (some name), some (some storage), some timeout, some foreignKeys, some mode =>
    ofParts? name storage timeout foreignKeys mode
  | _, _, _, _, _ => none

/-- Reads a unit from a value. -/
def ofValue? : Json → Option PersistenceUnit
  | .object members => (Json.keyed? members).bind ofMembers?
  | .array [name, storage] => ofParts? name storage none none none
  | .array [name, storage, timeout] => ofParts? name storage (some timeout) none none
  | .array [name, storage, timeout, foreignKeys] =>
    ofParts? name storage (some timeout) (some foreignKeys) none
  | .array [name, storage, timeout, foreignKeys, mode] =>
    ofParts? name storage (some timeout) (some foreignKeys) (some mode)
  | _ => none

/-- Reads a unit from a text. -/
def ofJson? (text : String) : Option PersistenceUnit :=
  (Json.read? text).bind ofValue?

end PersistenceUnit

end EntityStore
