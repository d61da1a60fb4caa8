/-! # Blanks: the characters of the property White_Space

`trim` takes the blanks off both ends of a text, `trimEnd` off its end. -/

namespace MaxPatch.Text

/-- The ranges of blanks, from first to last code point. -/
def blankRanges : List (Nat × Nat) :=
  [(0x9, 0xD), (0x20, 0x20), (0x85, 0x85), (0xA0, 0xA0), (0x1680, 0x1680), (0x2000, 0x200A),
   (0x2028, 0x2029), (0x202F, 0x202F), (0x205F, 0x205F), (0x3000, 0x3000)]

/-- Whether a character is a blank. -/
def isBlank (c : Char) : Bool :=
  blankRanges.any fun (first, last) => first ≤ c.toNat && c.toNat ≤ last

/-- The characters without the blanks at the end. -/
def dropBlanksEnd (cs : List Char) : List Char := (cs.reverse.dropWhile isBlank).reverse

/-- The text without the blanks at its end. -/
def trimEnd (s : String) : String := String.ofList (dropBlanksEnd s.toList)

/-- The text without the blanks at both ends. -/
def trim (s : String) : String := String.ofList (dropBlanksEnd (s.toList.dropWhile isBlank))

end MaxPatch.Text
