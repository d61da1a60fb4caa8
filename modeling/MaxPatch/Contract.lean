import MaxPatch.Pixels
import MaxPatch.Port

/-! # Contracts: what a type of object promises

A contract says how many inlets the boxes of a type have, what each of their outlets sends, how they
are drawn and, for some, how wide they are. -/

namespace MaxPatch

/-- The render class of ordinary boxes, which show their type and arguments as a label. -/
def genericClass : String := "newobj"

/-- What the boxes of a type have in common. -/
structure Contract where
  inlets : Nat
  outlets : List OutletKind
  renderClass : String := genericClass
  width : Option Pixels := none
  deriving DecidableEq, Repr

namespace Contract

/-- The contract of a type that nobody knows: one inlet, and one outlet for any message. -/
def fallback : Contract := { inlets := 1, outlets := [.message] }

/-- Whether the boxes are ordinary, labelled ones. -/
def isGeneric (c : Contract) : Bool := c.renderClass = genericClass

end Contract

end MaxPatch
