import MaxPatch.Catalog.Builtin
import MaxPatch.Device.Boundary
import MaxPatch.Document
import MaxPatch.Layout.Editor
import MaxPatch.Layout.Face
import MaxPatch.Patch.Endpoint
import MaxPatch.Patch.Suspicion

/-! # Devices: a patch between its boundary boxes

A device is a patch that begins with its boundary, together with the catalog its boxes are made by
and the parameters declared so far. The device remembers its context box, the one that tells it
about its host, from the moment it asks for it; a box of that type that was added by hand is none of
its business.

What a caller asks for may have a label too long to work a width out for (`add?`, `addWith?`). The
boxes that a device adds of its own accord have short labels, and are just added.

`Device.finalize` completes the device: it asks for the context box, lays out the editor and the
face, reports the suspicions and takes the document. Steps that can fail give the device back along
with the error, since a chain or a layout may have got some way. -/

namespace MaxPatch

/-- The type of the box that tells a device about its host. -/
def contextType : String := "live.thisdevice"

/-- A device under construction. -/
structure Device where
  name : String
  catalog : Catalog
  patch : Patch
  boundary : Boundary
  parameters : List Parameter := []
  context : Option Handle := none

namespace Device

/-- A device with nothing in it but its boundary. -/
def create (name : String) (kind : DeviceKind) (catalog : Catalog := .builtin) : Noted Device := do
  let (boundary, patch) ← Boundary.create kind catalog .empty
  return { name, catalog, patch, boundary }

/-- The kind of the device. -/
def kind (d : Device) : DeviceKind := d.boundary.kind

/-- Files a type in the catalog of this device. -/
def register (d : Device) (typeName : String) (contract : Contract) : Device :=
  { d with catalog := d.catalog.register typeName contract }

/-! ## Boxes -/

/-- Adds a box made by a given contract that sizes it. -/
def addWith (d : Device) (typeName : String) (contract : Contract) (args : String)
    (attributes : Members) : Handle × Device :=
  let (handle, patch) := d.patch.add typeName contract args attributes
  (handle, { d with patch })

/-- Adds a box made by a given contract, unless the arithmetic for its label overflows. -/
def addWith? (d : Device) (typeName : String) (contract : Contract) (args : String)
    (attributes : Members) : Option (Handle × Device) :=
  if contract.sizes (labelText typeName args) then
    some (d.addWith typeName contract args attributes)
  else none

/-- Adds a box of a type of the catalog, with attributes. -/
def addFrom (d : Device) (typeName args : String) (attributes : Members) :
    Noted (Handle × Device) := do
  return d.addWith typeName (← d.catalog.resolve typeName) args attributes

/-- Adds a box of a type of the catalog. -/
def add (d : Device) (typeName args : String) : Noted (Handle × Device) :=
  d.addFrom typeName args []

/-- Adds a box of a type of the catalog, unless the arithmetic for its label overflows. -/
def add? (d : Device) (typeName args : String) : Noted (Option (Handle × Device)) := do
  return d.addWith? typeName (← d.catalog.resolve typeName) args []

/-- Adds a box that holds a text. -/
def addText (d : Device) (typeName text : String) : Noted (Handle × Device) :=
  d.addFrom typeName "" [("text", .text text)]

/-- Adds a comment. -/
def comment (d : Device) (text : String) : Noted (Handle × Device) := d.addText "comment" text

/-- Adds a message box. -/
def message (d : Device) (text : String) : Noted (Handle × Device) := d.addText "message" text

/-- Declares a parameter. -/
def addParameter (d : Device) (name : String) (o : ParameterOptions) : Parameter × Device :=
  let (parameter, patch) := d.patch.addParameter name o
  (parameter, { d with patch, parameters := d.parameters ++ [parameter] })

/-- The context box, which is added when it is asked for the first time. -/
def ensureContext (d : Device) : Noted (Handle × Device) :=
  match d.context with
  | some handle => pure (handle, d)
  | none => do
    let (handle, d) ← d.add contextType ""
    return (handle, { d with context := some handle })

/-! ## Cords -/

/-- The outlet that brings a channel into the device. -/
def input (d : Device) (channel : Nat) : Except DeviceError Port := d.boundary.inputPort channel

/-- The inlet that takes a channel out of the device. -/
def output (d : Device) (channel : Nat) : Except DeviceError Port := d.boundary.outputPort channel

/-- Adds a cord. The answer is its number. -/
def connect (d : Device) (source destination : Endpoint) : Except PatchError (Nat × Device) :=
  match d.patch.link source destination with
  | .ok (number, patch) => .ok (number, { d with patch })
  | .error e => .error e

/-- Adds the cords from each endpoint to the next, up to the first one that is refused. -/
def chain (d : Device) (items : List Endpoint) : Except PatchError Unit × Device :=
  let (result, patch) := d.patch.chain items
  (result, { d with patch })

/-! ## Descriptions -/

/-- Sets the description. -/
def describe (d : Device) (text : String) : Device :=
  { d with patch := { d.patch with description := text } }

/-- Sets the tags. -/
def tag (d : Device) (text : String) : Device := { d with patch := { d.patch with tags := text } }

/-! ## Completion -/

/-- The cords that bring messages where audio is expected. -/
def suspicions (d : Device) : List Suspicion := d.patch.suspicions

/-- The notice about a suspicious cord. -/
def suspicionNotice (s : Suspicion) : Notice := { severity := .warning, text := s.message }

/-- Lays out the editor and the face. A device with parameters opens with its face. -/
def layout (d : Device) : Except PatchError Unit × Device :=
  let (_, p) := d.patch.layoutEditor
  match p.layoutFace (d.parameters.map (·.id)) with
  | (.error e, p) => (.error e, { d with patch := p })
  | (.ok _, p) =>
    let opens := p.opensInPresentation || !d.parameters.isEmpty
    (.ok (), { d with patch := { p with opensInPresentation := opens } })

/-- Completes the device and takes its document. -/
def finalize (d : Device) : Noted (Except PatchError Document × Device) := do
  let (_, d) ← d.ensureContext
  match d.layout with
  | (.error e, d) => return (.error e, d)
  | (.ok (), d) =>
    d.suspicions.forM fun s => Noted.report (suspicionNotice s)
    return (.ok d.patch.document, d)

/-- Completes the device and writes its document. -/
def serialize (d : Device) : Noted (Except PatchError String × Device) := do
  let (result, d) ← d.finalize
  return (result.map (·.text), d)

end Device

end MaxPatch
