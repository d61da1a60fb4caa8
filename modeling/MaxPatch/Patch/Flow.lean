import MaxPatch.Patch

/-! # Flow: what follows what

Two questions about the cords of a patch. `successors` asks which boxes a box sends to; each is
named once, in the order of the first cord to it. `inDegree` asks how many cords arrive at a box,
and there parallel cords count each.

`adjacency` and `inDegrees` answer for all boxes at once. Each goes through the cords a single time,
with a table that has an entry for every box from the start. -/

namespace MaxPatch.Patch

/-- The items of a list at their first occurrence. -/
def firstOccurrences {α : Type} [DecidableEq α] (xs : List α) : List α :=
  xs.foldl (fun seen x => if x ∈ seen then seen else seen ++ [x]) []

/-- The boxes that a box sends to, in the order of the first cord to each. -/
def successors (p : Patch) (id : BoxId) : List BoxId :=
  firstOccurrences ((p.cords.filter (·.source.box = id)).map (·.destination.box))

/-- How many cords arrive at a box. -/
def inDegree (p : Patch) (id : BoxId) : Nat :=
  (p.cords.filter (·.destination.box = id)).length

/-! ## Tables -/

/-- Notes in a table that a box sends to another. The other one comes behind those that are noted
for the box, unless it is among them; a box without an entry is passed over. -/
def noteSuccessor (table : List (BoxId × List BoxId)) (source destination : BoxId) :
    List (BoxId × List BoxId) :=
  table.map fun (id, noted) =>
    if id = source then (id, if destination ∈ noted then noted else noted ++ [destination])
    else (id, noted)

/-- Counts a cord that arrives at a box, in a table in the order of the numbers. A box without an
entry is given one, at its place. -/
def countArrival (id : BoxId) : List (BoxId × Nat) → List (BoxId × Nat)
  | [] => [(id, 1)]
  | (other, n) :: table =>
    if other = id then (other, n + 1) :: table
    else if id.number < other.number then (id, 1) :: (other, n) :: table
    else (other, n) :: countArrival id table

/-- Every box with the boxes it sends to. -/
def adjacency (p : Patch) : List (BoxId × List BoxId) :=
  p.cords.foldl (fun table c => noteSuccessor table c.source.box c.destination.box)
    (p.ids.map fun id => (id, []))

/-- Every box with the number of cords that arrive at it. -/
def inDegrees (p : Patch) : List (BoxId × Nat) :=
  p.cords.foldl (fun table c => countArrival c.destination.box table) (p.ids.map fun id => (id, 0))

end MaxPatch.Patch
