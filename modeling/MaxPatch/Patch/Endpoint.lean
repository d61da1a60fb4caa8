import MaxPatch.Parameter

/-! # Endpoints: what can be wired

A cord can be asked for between boxes, parameters and ports. A box or a parameter stands for its
first outlet where a cord begins and for its first inlet where it ends. -/

namespace MaxPatch

/-- What can be wired. -/
inductive Endpoint where
  | box (handle : Handle)
  | parameter (parameter : Parameter)
  | port (port : Port)
  deriving DecidableEq, Repr

namespace Endpoint

/-- The port where a cord from here begins. -/
def asSource : Endpoint → Except PatchError Port
  | box h => h.outlet 0
  | parameter p => .ok p.value
  | port p => .ok p

/-- The port where a cord to here ends. -/
def asDestination : Endpoint → Except PatchError Port
  | box h => h.inlet 0
  | parameter p => p.inlet 0
  | port p => .ok p

end Endpoint

/-- Adds a cord between two endpoints. -/
def Patch.link (p : Patch) (source destination : Endpoint) : Except PatchError (Nat × Patch) := do
  let source ← source.asSource
  let destination ← destination.asDestination
  p.connect source destination

/-- Adds the cords from each endpoint to the next. The first one that is refused ends the chain; the
cords before it stay. -/
def Patch.chain (p : Patch) : List Endpoint → Except PatchError Unit × Patch
  | first :: second :: rest =>
    match p.link first second with
    | .ok (_, p) => p.chain (second :: rest)
    | .error e => (.error e, p)
  | _ => (.ok (), p)

end MaxPatch
