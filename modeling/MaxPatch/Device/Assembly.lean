import MaxPatch.Device

/-! # Assemblies: devices built step by step

An assembly is a computation that builds a device and may fail on the way; what it has to report is
collected. It is how a device is described in a few lines of `do` notation: boxes, parameters and
ports can all be given where a cord begins or ends. -/

namespace MaxPatch

/-- A computation that builds a device. -/
abbrev Assembly := ExceptT DeviceError (StateT Device Noted)

instance : Coe Handle Endpoint := ⟨.box⟩

instance : Coe Parameter Endpoint := ⟨.parameter⟩

instance : Coe Port Endpoint := ⟨.port⟩

namespace Assembly

/-- A step that changes the device and reports. -/
def step {α : Type} (f : Device → Noted (α × Device)) : Assembly α :=
  ExceptT.lift (show StateT Device Noted α from f)

/-- A value that may be refused. -/
def attempt {α : Type} (result : Except DeviceError α) : Assembly α :=
  match result with
  | .ok a => pure a
  | .error e => throw e

/-- A box of a type of the catalog. -/
def box (typeName : String) (args : String := "") : Assembly Handle := step (·.add typeName args)

/-- A box made by a given contract. -/
def boxWith (typeName args : String) (contract : Contract) : Assembly Handle :=
  step fun d => pure (d.addWith typeName contract args [])

/-- A parameter. -/
def parameter (name : String) (o : ParameterOptions) : Assembly Parameter :=
  step fun d => pure (d.addParameter name o)

/-- The description of the device. -/
def describe (text : String) : Assembly Unit := step fun d => pure ((), d.describe text)

/-- An inlet of a box. -/
def inlet (h : Handle) (index : Nat) : Assembly Port := attempt ((h.inlet index).mapError .patch)

/-- An outlet of a box. -/
def outlet (h : Handle) (index : Nat) : Assembly Port := attempt ((h.outlet index).mapError .patch)

/-- The outlet that brings a channel into the device. -/
def input (channel : Nat) : Assembly Port := do attempt ((← get).input channel)

/-- The inlet that takes a channel out of the device. -/
def output (channel : Nat) : Assembly Port := do attempt ((← get).output channel)

/-- A cord. -/
def connect (source destination : Endpoint) : Assembly Unit := do
  match (← get).connect source destination with
  | .ok (_, d) => set d
  | .error e => throw (.patch e)

/-- The cords from each endpoint to the next. -/
def chain (items : List Endpoint) : Assembly Unit := do
  let (result, d) := (← get).chain items
  set d
  attempt (result.mapError .patch)

/-- The device that an assembly builds. -/
def build (name : String) (kind : DeviceKind) (steps : Assembly Unit) :
    Noted (Except DeviceError Device) := do
  let d ← Device.create name kind
  let (result, d) ← (ExceptT.run steps).run d
  return result.map fun _ => d

end Assembly

end MaxPatch
