import EntityStore.Fault.Repository
/-!
# Method names

The name of a method says which query it stands for: a word for the form, and then the
attributes to filter by, joined by `And`:

    findByNameAndBirthYear     selects by `name` and `birthYear`
    countByLabel               counts by `label`

An attribute is written with an upper-case first letter.  `And` joins two attributes only where
an attribute has begun before it and an upper-case letter follows; anywhere else it belongs to
the attribute.
-/

namespace EntityStore.Query

/-- What a method name stands for: a form and the attributes to filter by. -/
structure Method where
  form : Form
  attributes : List String
  deriving DecidableEq, Repr

namespace Method

/-! ## 1. The word for the form -/

/-- The words that a method name may begin with.  A word stands before its own beginnings, so
the first that fits is the longest. -/
def words : List (List Char × Form) :=
  [("findBy".toList, .selectFiltered), ("find".toList, .selectFiltered),
    ("countBy".toList, .countFiltered), ("deleteBy".toList, .deleteFiltered)]

/-- Takes the word for the form off a method name. -/
def splitForm? (method : List Char) : Option (Form × List Char) :=
  words.findSome? fun (word, form) =>
    if word.isPrefixOf method then some (form, method.drop word.length) else none

/-! ## 2. The attributes -/

/-- Whether an upper-case letter comes next. -/
def upperNext : List Char → Bool
  | [] => false
  | c :: _ => c.isUpper

/-- Splits a chain of attributes: the first token, and the others.  `begun` says whether a part
of the first token stands before. -/
def splitChain (begun : Bool) : List Char → List Char × List (List Char)
  | 'A' :: 'n' :: 'd' :: rest =>
    if begun && upperNext rest then
      let (token, others) := splitChain false rest
      ([], token :: others)
    else
      let (token, others) := splitChain true rest
      ('A' :: 'n' :: 'd' :: token, others)
  | c :: rest =>
    let (token, others) := splitChain true rest
    (c :: token, others)
  | [] => ([], [])

/-- The tokens of a chain of attributes. -/
def tokens (chain : List Char) : List (List Char) :=
  let (token, others) := splitChain false chain
  token :: others

/-- Whether a token is an upper-case letter followed by letters and digits. -/
def isToken : List Char → Bool
  | [] => false
  | c :: rest => c.isUpper && rest.all Char.isAlphanum

/-- The attribute that a token stands for: its first letter becomes a lower-case one. -/
def attributeOf : List Char → String
  | [] => ""
  | c :: rest => String.ofList (c.toLower :: rest)

/-! ## 3. Parsing -/

/-- What the characters of a method name stand for. -/
def parseChars (method : List Char) : Except QueryFault Method :=
  match splitForm? method with
  | none => .error .missingPrefix
  | some (_, []) => .error .emptyAttributeChain
  | some (form, chain) =>
    match (tokens chain).find? fun token => !isToken token with
    | some token => .error (.malformedAttribute (String.ofList token))
    | none => .ok ⟨form, (tokens chain).map attributeOf⟩

/-- What a method name stands for; a fault names the method. -/
def parse (method : String) : Except RepositoryFault Method :=
  (parseChars method.toList).mapError (.derivation method)

end Method

end EntityStore.Query
