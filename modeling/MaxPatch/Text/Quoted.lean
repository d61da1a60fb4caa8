import MaxPatch.Text.Unshown

/-! # Quoted literals: a text that can be read on one line

A literal stands between quotes. The quote, the backslash and four common controls are written with
a backslash, every other unshown character by its code point in braces, and the rest as it is. -/

namespace MaxPatch.Text

/-- A character by its code point, in lower-case hexadecimal without padding. -/
def codeEscape (c : Char) : List Char :=
  ['\\', 'u', '\x7b'] ++ Nat.toDigits 16 c.toNat ++ ['\x7d']

/-- A character as it stands in a literal. -/
def literalChar (c : Char) : List Char :=
  if c = '\x00' then ['\\', '0']
  else if c = '\t' then ['\\', 't']
  else if c = '\r' then ['\\', 'r']
  else if c = '\n' then ['\\', 'n']
  else if c = '\\' then ['\\', '\\']
  else if c = '"' then ['\\', '"']
  else if isUnshown c then codeEscape c
  else [c]

/-- A text as a literal, between quotes. -/
def literal (s : String) : String :=
  String.ofList ('"' :: (s.toList.flatMap literalChar ++ ['"']))

end MaxPatch.Text
