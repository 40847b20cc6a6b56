import EntityStore.Statement
/-!
# Reading statements

The text of a statement, read back.  A scanner cuts the text into tokens, and the tokens are put
together to a statement.

The scanner knows nothing about statements.  It goes by the rules that the store has for names,
words and parameters: a name stands between quotes, and a quote in it is written twice; a word
and the parameter behind a colon go on for as long as their characters do.
-/

namespace EntityStore

/-! ## 1. Tokens -/

/-- A token of a text: a word, a name between quotes, a parameter behind a colon, or any other
character. -/
inductive Token where
  | word (text : String)
  | name (text : String)
  | parameter (text : String)
  | mark (c : Char)
  deriving DecidableEq, Repr

/-- Where a scanner stands: between two tokens, or in one of which some characters are read.  After
a quote that ends a name, unless another follows, it is `closing` the name. -/
inductive Scanner where
  | between
  | word (read : List Char)
  | parameter (read : List Char)
  | name (read : List Char)
  | closing (read : List Char)
  | mark (c : Char)
  deriving DecidableEq, Repr

namespace Scanner

/-- Whether a character only stands between tokens. -/
def isGap (c : Char) : Bool :=
  c = ' ' || c = '\t' || c = '\n' || c = '\x0c' || c = '\r'

/-- Whether a character goes on with a word or a parameter. -/
def isWordChar (c : Char) : Bool :=
  c.isAlphanum || c = '_' || c = '$' || '\x7f' < c

/-- Where a scanner stands after a character that begins something new. -/
def start (c : Char) : Scanner :=
  if isGap c then .between
  else if c = '"' then .name []
  else if c = ':' then .parameter []
  else if isWordChar c then .word [c]
  else .mark c

/-- Goes on with a token, if a character belongs to it. -/
def goOn? : Scanner → Char → Option Scanner
  | .between, _ => none
  | .word read, c => if isWordChar c then some (.word (read ++ [c])) else none
  | .parameter read, c => if isWordChar c then some (.parameter (read ++ [c])) else none
  | .name read, c => some (if c = '"' then .closing read else .name (read ++ [c]))
  | .closing read, c => if c = '"' then some (.name (read ++ [c])) else none
  | .mark _, _ => none

/-- The token that ends where a scanner stands.  A quote that opens a name which never ends is a
mark. -/
def pending : Scanner → List Token
  | .between => []
  | .word read => [.word (String.ofList read)]
  | .parameter read => [.parameter (String.ofList read)]
  | .name _ => [.mark '"']
  | .closing read => [.name (String.ofList read)]
  | .mark c => [.mark c]

/-- The tokens of a text from where a scanner stands. -/
def scan : Scanner → List Char → List Token
  | s, [] => s.pending
  | s, c :: rest =>
    match s.goOn? c with
    | some s => s.scan rest
    | none => s.pending ++ (start c).scan rest

end Scanner

/-- The tokens of a text. -/
def tokens (text : String) : List Token :=
  Scanner.between.scan text.toList

/-- The name of a parameter. -/
def Token.parameter? : Token → Option String
  | .parameter text => some text
  | _ => none

/-- The parameters that a text asks for, in the order of their places. -/
def placeholders (text : String) : List String :=
  (tokens text).filterMap Token.parameter?

/-! ## 2. Statements -/

/-- A statement: a selection, a count of rows, or a change. -/
inductive Statement where
  | select (selection : Selection)
  | count (filter : Filter)
  | change (change : Change)
  deriving DecidableEq, Repr

namespace Statement

/-- The text of a statement. -/
def text : Statement → String
  | .select selection => selection.text
  | .count filter => filter.countText
  | .change c => c.text

theorem text_change (c : Change) : (change c).text = c.text := rfl

/-! ## 3. Parts of statements

Each function reads from the front of the tokens and gives back the rest. -/

/-- Takes expected tokens off the front. -/
def take? (expected : List Token) (tokens : List Token) : Option (List Token) :=
  if expected.isPrefixOf tokens then some (tokens.drop expected.length) else none

/-- Reads a name. -/
def name? : List Token → Option (String × List Token)
  | .name text :: rest => some (text, rest)
  | _ => none

/-- Reads a parameter. -/
def parameter? : List Token → Option (String × List Token)
  | .parameter text :: rest => some (text, rest)
  | _ => none

/-- Reads a column and a parameter with an equals sign between them. -/
def slot? (tokens : List Token) : Option (Slot × List Token) := do
  let (column, rest) ← name? tokens
  let rest ← take? [.mark '='] rest
  let (parameter, rest) ← parameter? rest
  some (⟨column, parameter⟩, rest)

/-- Reads a column of a result and its label. -/
def output? (tokens : List Token) : Option (Output × List Token) := do
  let (column, rest) ← name? tokens
  let rest ← take? [.word "AS"] rest
  let (label, rest) ← name? rest
  some (⟨column, label⟩, rest)

/-- Reads items with a separator between each two.  A bound says how many there can be. -/
def itemsWithin? {α : Type} (item? : List Token → Option (α × List Token)) (separator : Token) :
    Nat → List Token → Option (List α × List Token)
  | 0, _ => none
  | bound + 1, tokens =>
    match item? tokens with
    | none => none
    | some (item, rest) =>
      match take? [separator] rest with
      | none => some ([item], rest)
      | some rest =>
        (itemsWithin? item? separator bound rest).map fun (items, rest) => (item :: items, rest)

/-- Reads one item or more with a separator between each two. -/
def items? {α : Type} (item? : List Token → Option (α × List Token)) (separator : Token)
    (tokens : List Token) : Option (List α × List Token) :=
  itemsWithin? item? separator (tokens.length + 1) tokens

/-- Reads the conditions of a filter, if it has any. -/
def conditions? (tokens : List Token) : Option (List Slot × List Token) :=
  match take? [.word "WHERE"] tokens with
  | some rest => items? slot? (.word "AND") rest
  | none => some ([], tokens)

/-- Reads the column that rows are sorted by, if they are. -/
def order? (tokens : List Token) : Option (Option String × List Token) :=
  match take? [.word "ORDER", .word "BY"] tokens with
  | none => some (none, tokens)
  | some rest => do
    let (column, rest) ← name? rest
    let rest ← take? [.word "ASC"] rest
    some (some column, rest)

/-- Reads a table and the conditions on its rows, up to the end of the statement. -/
def filter? (tokens : List Token) : Option Filter := do
  let (table, rest) ← name? tokens
  let (conditions, rest) ← conditions? rest
  if rest = [.mark ';'] then some ⟨table, conditions⟩ else none

/-! ## 4. Whole statements -/

/-- Reads a selection. -/
def select? (tokens : List Token) : Option Statement := do
  let rest ← take? [.word "SELECT"] tokens
  let (outputs, rest) ← items? output? (.mark ',') rest
  let rest ← take? [.word "FROM"] rest
  let (table, rest) ← name? rest
  let (conditions, rest) ← conditions? rest
  let (orderBy, rest) ← order? rest
  if rest = [.mark ';'] then some (.select ⟨⟨table, conditions⟩, outputs, orderBy⟩) else none

/-- Reads a count of rows. -/
def count? (tokens : List Token) : Option Statement := do
  let rest ← take? [.word "SELECT", .word "COUNT", .mark '(', .mark '*', .mark ')', .word "FROM"]
    tokens
  (filter? rest).map .count

/-- Reads the values of a new row: columns, and as many parameters for them. -/
def values? (tokens : List Token) : Option (List Slot × List Token) :=
  match take? [.word "DEFAULT", .word "VALUES"] tokens with
  | some rest => some ([], rest)
  | none => do
    let rest ← take? [.mark '('] tokens
    let (columns, rest) ← items? name? (.mark ',') rest
    let rest ← take? [.mark ')', .word "VALUES", .mark '('] rest
    let (parameters, rest) ← items? parameter? (.mark ',') rest
    let rest ← take? [.mark ')'] rest
    if columns.length = parameters.length then
      some (columns.zipWith Slot.mk parameters, rest)
    else none

/-- Reads the insertion of a row. -/
def insert? (tokens : List Token) : Option Statement := do
  let rest ← take? [.word "INSERT", .word "INTO"] tokens
  let (table, rest) ← name? rest
  let (values, rest) ← values? rest
  if rest = [.mark ';'] then some (.change (.insert table values)) else none

/-- Reads the update of rows. -/
def update? (tokens : List Token) : Option Statement := do
  let rest ← take? [.word "UPDATE"] tokens
  let (table, rest) ← name? rest
  let rest ← take? [.word "SET"] rest
  let (values, rest) ← items? slot? (.mark ',') rest
  let (conditions, rest) ← conditions? rest
  if rest = [.mark ';'] then some (.change (.update ⟨table, conditions⟩ values)) else none

/-- Reads the deletion of rows. -/
def delete? (tokens : List Token) : Option Statement := do
  let rest ← take? [.word "DELETE", .word "FROM"] tokens
  (filter? rest).map fun filter => .change (.delete filter)

/-- Reads a statement, of whatever kind. -/
def ofTokens? (tokens : List Token) : Option Statement :=
  (select? tokens).or <| (count? tokens).or <| (insert? tokens).or <| (update? tokens).or <|
    delete? tokens

/-- Reads a statement back from its text. -/
def read? (text : String) : Option Statement :=
  ofTokens? (tokens text)

end Statement

end EntityStore
