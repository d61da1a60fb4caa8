/-! # Unit styles: how the host shows a value

The order of `UnitStyle.all` gives each style its code. -/

namespace MaxPatch

/-- How the host shows the value of a parameter. -/
inductive UnitStyle where
  | int
  | float
  | time
  | hertz
  | decibel
  | percent
  | pan
  | semitone
  | midi
  | custom
  | native
  deriving DecidableEq, Repr

namespace UnitStyle

/-- Every style, in the order of their codes. -/
def all : List UnitStyle :=
  [int, float, time, hertz, decibel, percent, pan, semitone, midi, custom, native]

/-- The host's code for a style. -/
def code : UnitStyle → Nat
  | int => 0
  | float => 1
  | time => 2
  | hertz => 3
  | decibel => 4
  | percent => 5
  | pan => 6
  | semitone => 7
  | midi => 8
  | custom => 9
  | native => 10

/-- The name of a style. -/
def name : UnitStyle → String
  | int => "int"
  | float => "float"
  | time => "time"
  | hertz => "hertz"
  | decibel => "decibel"
  | percent => "%"
  | pan => "pan"
  | semitone => "semitone"
  | midi => "midi"
  | custom => "custom"
  | native => "native"

/-- The style with a name. -/
def ofName? (s : String) : Option UnitStyle := all.find? (·.name = s)

/-- The style of a parameter that asks for none. -/
def default : UnitStyle := int

end UnitStyle

end MaxPatch
