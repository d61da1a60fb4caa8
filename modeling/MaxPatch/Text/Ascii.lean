/-! # Ascii: names that ignore case

Names that a user types are compared by their ASCII letters in lower case. All other characters
stand for themselves: no name of the library has a letter outside ASCII, so nothing else could be
meant. -/

namespace MaxPatch.Text

/-- The text with its ASCII letters in lower case. -/
def lower (s : String) : String := String.ofList (s.toList.map Char.toLower)

/-- Whether two texts differ at most in the case of ASCII letters. -/
def sameIgnoringCase (s t : String) : Bool := lower s = lower t

/-- The ASCII letters, in lower case, and the digits of a text. -/
def letterKey (s : String) : List Char := (s.toList.filter Char.isAlphanum).map Char.toLower

end MaxPatch.Text
