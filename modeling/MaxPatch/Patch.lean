import MaxPatch.Box

/-! # Patches: boxes and the cords between them

Boxes and cords are kept in the order in which they were added, and none is ever taken away. They
are numbered as they come, boxes from 1 and cords from 0, by counters of their own. A box keeps its
number, and with it its place; so a box is found by its number alone.

Adding a box can fail in one way only: if its width has to be worked out for a label that is too
long, the arithmetic overflows and the program stops (`Patch.add?`).

`Patch.connect` is the only way to a cord. It looks, in this order, at the side of the source, the
side of the destination, the box and the port of the source, and the box and the port of the
destination, and the first fault is the answer. -/

namespace MaxPatch

/-- A connection from an outlet to an inlet. -/
structure Cord where
  source : Port
  destination : Port
  order : Nat := 0
  deriving DecidableEq, Repr

/-- A patch under construction: its boxes and cords, the number that the last box got and the one
that the next cord gets, and what is said of the patch as a whole. -/
structure Patch where
  boxes : List Box := []
  cords : List Cord := []
  lastBox : Nat := 0
  nextCord : Nat := 0
  deviceWidth : Pixels := 0
  opensInPresentation : Bool := false
  description : String := ""
  tags : String := ""

namespace Patch

/-- A patch with nothing in it. -/
def empty : Patch := {}

/-! ## Boxes -/

/-- The box of a number. -/
def box? (p : Patch) (id : BoxId) : Option Box :=
  match id.number with
  | 0 => none
  | n + 1 => p.boxes[n]?

/-- The first box of a type. -/
def findType? (p : Patch) (typeName : String) : Option Box :=
  p.boxes.find? (·.typeName = typeName)

/-- The numbers of all boxes. -/
def ids (p : Patch) : List BoxId := p.boxes.map (·.id)

/-- The number that the next box gets. -/
def nextId (p : Patch) : BoxId := ⟨p.lastBox + 1⟩

/-- Adds a box made by a contract that sizes it. -/
def add (p : Patch) (typeName : String) (contract : Contract) (args : String)
    (attributes : Members) : Handle × Patch :=
  let box := Box.ofContract p.nextId typeName contract args attributes
  (box.handle, { p with boxes := p.boxes ++ [box], lastBox := p.lastBox + 1 })

/-- Adds a box made by a contract, unless the arithmetic for its label overflows. -/
def add? (p : Patch) (typeName : String) (contract : Contract) (args : String)
    (attributes : Members) : Option (Handle × Patch) :=
  if contract.sizes (labelText typeName args) then some (p.add typeName contract args attributes)
  else none

/-- Changes the box of a number, if there is one. -/
def update (p : Patch) (id : BoxId) (f : Box → Box) : Patch :=
  match id.number with
  | 0 => p
  | n + 1 => { p with boxes := p.boxes.modify n f }

/-! ## Cords -/

/-- Refuses a port on the wrong side. -/
def expectSide (port : Port) (expected : Side) : Except PatchError Unit :=
  if port.side = expected then .ok () else .error (.wrongSide port expected)

/-- The box of a number, or the error that there is none. -/
def needBox (p : Patch) (id : BoxId) : Except PatchError Box :=
  match p.box? id with
  | some b => .ok b
  | none => .error (.boxNotFound id)

/-- Adds a cord. The answer is its number. -/
def connect (p : Patch) (source destination : Port) : Except PatchError (Nat × Patch) := do
  expectSide source .outlet
  expectSide destination .inlet
  let sourceBox ← p.needBox source.box
  let source ← sourceBox.outlet source.index
  let destinationBox ← p.needBox destination.box
  let destination ← destinationBox.inlet destination.index
  return (p.nextCord,
    { p with cords := p.cords ++ [{ source, destination }], nextCord := p.nextCord + 1 })

end Patch

end MaxPatch
