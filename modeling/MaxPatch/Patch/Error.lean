import MaxPatch.Parameter.Control
import MaxPatch.Port

/-! # What can go wrong with a patch

The causes for which a port, a parameter or a cord is refused. Each is raised by the call that asks
for it, and the patch is then as before. -/

namespace MaxPatch

/-- Why a part of a patch is refused. -/
inductive PatchError where
  /-- A box has too few inlets or outlets. -/
  | portOutOfRange (typeName : String) (side : Side) (index count : Nat)
  /-- A control has no outlet for the raw value. -/
  | noRawOutlet (control : Control)
  /-- No control has this name. -/
  | unknownControl (name : String)
  /-- No unit style has this name. -/
  | unknownUnitStyle (name : String)
  /-- The patch has no box of this number. -/
  | boxNotFound (id : BoxId)
  /-- A cord would begin at an inlet or end at an outlet. -/
  | wrongSide (port : Port) (expected : Side)
  deriving DecidableEq, Repr

/-- What a user is told. -/
def PatchError.message : PatchError → String
  | portOutOfRange typeName side index count =>
    "box \"" ++ typeName ++ "\" has " ++ toString count ++ " " ++ side.name ++ "s, port "
      ++ toString index ++ " out of range"
  | noRawOutlet control => "param type \"" ++ control.name ++ "\" has no raw outlet"
  | unknownControl name => "unknown param type: " ++ name
  | unknownUnitStyle name => "unknown unit style: " ++ name
  | boxNotFound id => "node " ++ id.name ++ " not found"
  | wrongSide port expected =>
    port.box.name ++ " " ++ port.side.name ++ " " ++ toString port.index ++ " used where an "
      ++ expected.name ++ " is required"

end MaxPatch
