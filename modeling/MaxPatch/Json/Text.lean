import MaxPatch.Json
import MaxPatch.Binary64.Shortest

/-! # Text of values: compact and indented

`Json.compact` writes a value without any space; `Json.pretty` puts each item and each member on a
line of its own, two spaces deeper than what encloses it, and an empty list or object on one line.
Both write texts through `Json.quote`, which escapes the quote, the backslash and what lies below
the space, and nothing else. -/

namespace MaxPatch.Json

/-- A hexadecimal digit, in lower case. -/
def hexDigit (n : Nat) : Char := Nat.digitChar (n % 16)

/-- A character as it stands in a quoted text. -/
def escape (c : Char) : List Char :=
  if c = '"' then ['\\', '"']
  else if c = '\\' then ['\\', '\\']
  else if c = '\x08' then ['\\', 'b']
  else if c = '\x0c' then ['\\', 'f']
  else if c = '\n' then ['\\', 'n']
  else if c = '\r' then ['\\', 'r']
  else if c = '\t' then ['\\', 't']
  else if c.toNat < 32 then ['\\', 'u', '0', '0', hexDigit (c.toNat / 16), hexDigit c.toNat]
  else [c]

/-- A text between quotes. -/
def quote (s : String) : String :=
  String.ofList ('"' :: (s.toList.flatMap escape ++ ['"']))

/-- A space for each place of indentation, after a new line. -/
def newline (indent : Nat) : String := String.ofList ('\n' :: List.replicate indent ' ')

/-- The opening brace of an object. -/
def openBrace : String := "\x7b"

/-- The closing brace of an object. -/
def closeBrace : String := "\x7d"

mutual

/-- A value without any space. -/
def compact : Json → String
  | .null => "null"
  | .bool b => if b then "true" else "false"
  | .int n => toString n
  | .float x => x.text
  | .text s => quote s
  | .list items => "[" ++ ",".intercalate (compactItems items) ++ "]"
  | .object members => openBrace ++ ",".intercalate (compactMembers members) ++ closeBrace

/-- The items of a list, each without any space. -/
def compactItems : List Json → List String
  | [] => []
  | j :: js => compact j :: compactItems js

/-- The members of an object, each without any space. -/
def compactMembers : List (String × Json) → List String
  | [] => []
  | (k, j) :: ms => (quote k ++ ":" ++ compact j) :: compactMembers ms

end

/-- The parts of a list or an object, each on a line of its own, between its brackets. -/
def block (opening closing : String) (indent : Nat) (parts : List String) : String :=
  if parts.isEmpty then opening ++ closing
  else
    let separator := "," ++ newline (indent + 2)
    opening ++ newline (indent + 2) ++ separator.intercalate parts ++ newline indent ++ closing

mutual

/-- A value over several lines, of which all but the first are indented by at least `indent`. -/
def pretty (indent : Nat) : Json → String
  | .null => "null"
  | .bool b => if b then "true" else "false"
  | .int n => toString n
  | .float x => x.text
  | .text s => quote s
  | .list items => block "[" "]" indent (prettyItems (indent + 2) items)
  | .object members => block openBrace closeBrace indent (prettyMembers (indent + 2) members)

/-- The items of a list, each over several lines. -/
def prettyItems (indent : Nat) : List Json → List String
  | [] => []
  | j :: js => pretty indent j :: prettyItems indent js

/-- The members of an object, each over several lines. -/
def prettyMembers (indent : Nat) : List (String × Json) → List String
  | [] => []
  | (k, j) :: ms => (quote k ++ ": " ++ pretty indent j) :: prettyMembers indent ms

end

end MaxPatch.Json
