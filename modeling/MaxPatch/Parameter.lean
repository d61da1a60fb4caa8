import MaxPatch.Parameter.UnitStyle
import MaxPatch.Patch

/-! # Parameters: controls that the host can automate

A parameter is a control box whose attributes tell the host its names, its range, its unit and its
entries. What is not asked for is not written, except for the names: they default to the name of the
parameter. -/

namespace MaxPatch

/-- The control with a name, or the error that there is none. -/
def Control.parse (s : String) : Except PatchError Control :=
  match Control.ofName? s with
  | some c => .ok c
  | none => .error (.unknownControl s)

/-- The unit style with a name, or the error that there is none. -/
def UnitStyle.parse (s : String) : Except PatchError UnitStyle :=
  match UnitStyle.ofName? s with
  | some u => .ok u
  | none => .error (.unknownUnitStyle s)

/-- What may be asked of a parameter. -/
structure ParameterOptions where
  control : Control
  longName : Option String := none
  shortName : Option String := none
  least : Option Binary64 := none
  greatest : Option Binary64 := none
  initial : Option Binary64 := none
  unit : UnitStyle := .default
  exponent : Option Binary64 := none
  steps : Option UInt32 := none
  entries : Option (List String) := none
  width : Option Pixels := none
  height : Option Pixels := none

namespace ParameterOptions

/-- The width and height of the box: those of the control where none are asked for. -/
def size (o : ParameterOptions) : Pixels × Pixels :=
  (o.width.getD o.control.defaultSize.1, o.height.getD o.control.defaultSize.2)

/-- A member that is written only if there is a value. -/
def optional {α : Type} (key : String) (write : α → Json) : Option α → Members
  | some a => [(key, write a)]
  | none => []

/-- The initial value, and that there is one. -/
def initialMembers : Option Binary64 → Members
  | some v =>
    [("parameter_initial", .list [.ofBinary64 v]), ("parameter_initial_enable", .flag true)]
  | none => []

/-- What the host is told about the value of a parameter. -/
def valueMembers (o : ParameterOptions) (name : String) : Members :=
  [("parameter_longname", .text (o.longName.getD name)),
   ("parameter_shortname", .text (o.shortName.getD name)),
   ("parameter_type", .nat o.control.typeCode),
   ("parameter_unitstyle", .nat o.unit.code),
   ("parameter_modmode", .nat 0)]
  ++ optional "parameter_mmin" .ofBinary64 o.least
  ++ optional "parameter_mmax" .ofBinary64 o.greatest
  ++ initialMembers o.initial
  ++ optional "parameter_exponent" .ofBinary64 o.exponent
  ++ optional "parameter_steps" (fun n => .nat n.toNat) o.steps
  ++ optional "parameter_enum" .texts o.entries

/-- The attributes of the box of a parameter. -/
def attributes (o : ParameterOptions) (name : String) : Members :=
  [("parameter_enable", .flag true),
   ("saved_attribute_attributes", .object [("valueof", .object (o.valueMembers name))]),
   ("varname", .text (o.longName.getD name))]

end ParameterOptions

/-- A parameter of a patch: its box and its control. -/
structure Parameter where
  handle : Handle
  control : Control
  deriving DecidableEq, Repr

namespace Parameter

/-- The number of the box. -/
def id (p : Parameter) : BoxId := p.handle.id

/-- The outlet for the value as it is shown, which every control has. -/
def value (p : Parameter) : Port := { box := p.id, side := .outlet, index := 0 }

/-- The outlet for the raw value. -/
def raw (p : Parameter) : Except PatchError Port :=
  if p.handle.outlets < 2 then .error (.noRawOutlet p.control) else p.handle.outlet 1

/-- An inlet. -/
def inlet (p : Parameter) (index : Nat) : Except PatchError Port := p.handle.inlet index

/-- An outlet. -/
def outlet (p : Parameter) (index : Nat) : Except PatchError Port := p.handle.outlet index

end Parameter

/-- Adds a parameter. Its box has the size asked for and lies in the corner until it is laid out. -/
def Patch.addParameter (p : Patch) (name : String) (o : ParameterOptions) : Parameter × Patch :=
  let (width, height) := o.size
  let (handle, p) := p.add o.control.renderClass (o.control.contract width) "" (o.attributes name)
  ({ handle, control := o.control },
    p.update handle.id (·.setEditorRect { x := 0, y := 0, width, height }))

end MaxPatch
