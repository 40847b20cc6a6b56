import EntityStore.Text.Hex
/-!
# JSON values

A JSON value as it is read from a text.  A number keeps its characters, since what they stand
for depends on who asks.  A text may be written with escapes that stand for no character; such a
text is `none`, and it is for the reader of the value to refuse it or to pass over it.
-/

namespace EntityStore

/-- A JSON value. -/
inductive Json where
  | null
  | bool (b : Bool)
  | number (digits : List Char)
  | text (s : Option String)
  | array (items : List Json)
  | object (members : List (Option String × Json))

namespace Json

/-! ## Writing texts -/

/-- How a character is written between quotes. -/
def escape (c : Char) : List Char :=
  if c = '"' then ['\\', '"']
  else if c = '\\' then ['\\', '\\']
  else if c = '\n' then ['\\', 'n']
  else if c = '\r' then ['\\', 'r']
  else if c = '\t' then ['\\', 't']
  else if c.toNat = 8 then ['\\', 'b']
  else if c.toNat = 12 then ['\\', 'f']
  else if c.toNat < 32 then ['\\', 'u', '0', '0', hexDigit (c.toNat / 16), hexDigit (c.toNat % 16)]
  else [c]

/-- A text between quotes. -/
def quote (text : List Char) : List Char :=
  '"' :: text.flatMap escape ++ ['"']

end Json

end EntityStore
