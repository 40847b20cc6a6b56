/-!
# Paths

Two paths name the same place when their components agree: repeated and final slashes do not
count, nor does a dot, except as the first component of a relative path.  Two dots are kept, for
what they lead to depends on the directories that exist.
-/

namespace EntityStore

/-- A component of a path. -/
inductive Component where
  | root
  | here
  | parent
  | named (name : String)
  deriving DecidableEq, Repr

namespace Path

/-- Whether a path begins at the root. -/
def isAbsolute (path : String) : Bool :=
  path.toList.head? = some '/'

/-- Whether a path is an address. -/
def isAddress (path : String) : Bool :=
  "file:".toList.isPrefixOf path.toList

/-- The text between slashes. -/
def segments : List Char → List (List Char)
  | [] => [[]]
  | c :: rest =>
    if c = '/' then [] :: segments rest
    else
      match segments rest with
      | [] => [[c]]
      | segment :: others => (c :: segment) :: others

/-- The component that a segment stands for; empty segments and dots stand for none. -/
def component? : List Char → Option Component
  | [] => none
  | ['.'] => none
  | ['.', '.'] => some .parent
  | segment => some (.named (String.ofList segment))

/-- The components of a path. -/
def components (path : String) : List Component :=
  let parts := segments path.toList
  let first := if isAbsolute path then [.root] else if parts.head? = some ['.'] then [.here] else []
  first ++ parts.filterMap component?

/-- The end of a way that begins with the components already gone, the last one first: a dot stays
where it is, and two dots go back, though never past the root. -/
def follow (gone : List Component) : List Component → List Component
  | [] => gone.reverse
  | .here :: rest => follow gone rest
  | .parent :: rest =>
    match gone with
    | .named _ :: before => follow before rest
    | _ => follow gone rest
  | c :: rest => follow (c :: gone) rest

/-- Where a path leads if no directory on the way is a link. -/
def destination (path : String) : List Component :=
  follow [] (components path)

/-- Whether two paths have the same components. -/
def same (a b : String) : Bool :=
  components a == components b

end Path

end EntityStore
