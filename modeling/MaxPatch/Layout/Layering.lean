import MaxPatch.Patch.Flow

/-! # Layering: columns that follow the cords

The boxes that are not controls are sorted into columns. The first column holds those at which no
cord arrives. When a column is complete, its boxes settle cords: each box settles one cord at every
box it sends to. A box joins the next column as soon as all its cords are settled.

A box that owes cords to the end is a straggler: it lies behind a cycle or behind a control, or two
cords join it with the same box. Stragglers go to the bottom of the last column. -/

namespace MaxPatch

/-- Boxes that wait for a column, each with the number of cords still to be settled. -/
abbrev Waiting := List (BoxId × Nat)

namespace Waiting

/-- Settles one cord of a box. The answer is whether it was its last; the box then waits no more. -/
def settle (id : BoxId) : Waiting → Bool × Waiting
  | [] => (false, [])
  | (other, owed) :: rest =>
    if other = id then
      if owed ≤ 1 then (true, rest) else (false, (other, owed - 1) :: rest)
    else
      let (last, rest) := settle id rest
      (last, (other, owed) :: rest)

/-- Settles a cord of each of the boxes named, one after the other. The answer is the boxes that
wait no more, in the order in which their last cords were settled. -/
def settleAll : List BoxId → Waiting → List BoxId × Waiting
  | [], w => ([], w)
  | id :: ids, w =>
    match settle id w with
    | (true, w) =>
      let (released, w) := settleAll ids w
      (id :: released, w)
    | (false, w) => settleAll ids w

end Waiting

/-- The columns from a given one on, and the boxes that wait in the end. Every column after the
first takes boxes out of the waiting ones, so there are at most as many as boxes that wait. -/
def columnsFrom (successors : BoxId → List BoxId) :
    Nat → List BoxId → Waiting → List (List BoxId) × Waiting
  | _, [], w => ([], w)
  | 0, column, w => ([column], w)
  | n + 1, column, w =>
    let (next, w) := w.settleAll (column.flatMap successors)
    let (columns, w) := columnsFrom successors n next w
    (column :: columns, w)

/-- Boxes in columns. -/
structure Layering where
  columns : List (List BoxId) := []
  stragglers : List BoxId := []
  deriving DecidableEq, Repr

namespace Layering

/-- Adds the stragglers at the bottom of the last column, or as a column if there is none. -/
def withStragglers : List (List BoxId) → List BoxId → List (List BoxId)
  | columns, [] => columns
  | [], stragglers => [stragglers]
  | [last], stragglers => [last ++ stragglers]
  | column :: columns, stragglers => column :: withStragglers columns stragglers

end Layering

namespace Patch

/-- The boxes that are controls, in order. -/
def controls (p : Patch) : List BoxId := (p.boxes.filter (·.isControl)).map (·.id)

/-- The boxes that are not controls, in order. -/
def logic (p : Patch) : List BoxId := (p.boxes.filter (!·.isControl)).map (·.id)

/-- The columns of a patch. -/
def layering (p : Patch) : Layering :=
  let owing := p.logic.map fun id => (id, p.inDegree id)
  let first := (owing.filter (·.2 = 0)).map (·.1)
  let waiting : Waiting := owing.filter (·.2 ≠ 0)
  let (columns, left) := columnsFrom p.successors waiting.length first waiting
  let stragglers := left.map (·.1)
  { columns := Layering.withStragglers columns stragglers, stragglers }

end Patch

end MaxPatch
