/-! # Ports: where cords end

Boxes of a patch are numbered from 1. A port is an inlet or an outlet of a box, counted from 0; what
an outlet sends is its `OutletKind`. -/

namespace MaxPatch

/-- What an outlet sends. -/
inductive OutletKind where
  | signal
  | multichannelSignal
  | bang
  | int
  | float
  | list
  | message
  deriving DecidableEq, Repr

namespace OutletKind

/-- Every kind. -/
def all : List OutletKind :=
  [.signal, .multichannelSignal, .bang, .int, .float, .list, .message]

/-- The tag a document writes; a message of any type has the empty one. -/
def tag : OutletKind → String
  | signal => "signal"
  | multichannelSignal => "multichannelsignal"
  | bang => "bang"
  | int => "int"
  | float => "float"
  | list => "list"
  | message => ""

/-- The kind with a tag. -/
def ofTag? (s : String) : Option OutletKind := all.find? (·.tag = s)

/-- Whether the outlet sends audio. -/
def isSignal (k : OutletKind) : Bool := k = signal || k = multichannelSignal

end OutletKind

/-- The number of a box in its patch, from 1. -/
structure BoxId where
  number : Nat
  deriving DecidableEq, Repr

/-- The name of a box in a document. -/
def BoxId.name (id : BoxId) : String := s!"obj-{id.number}"

/-- The side of a box that a port is on. -/
inductive Side where
  | inlet
  | outlet
  deriving DecidableEq, Repr

/-- The word for a port on that side. -/
def Side.name : Side → String
  | inlet => "inlet"
  | outlet => "outlet"

/-- An inlet or an outlet of a box. -/
structure Port where
  box : BoxId
  side : Side
  index : Nat
  deriving DecidableEq, Repr

end MaxPatch
