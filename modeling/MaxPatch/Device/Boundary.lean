import MaxPatch.Catalog
import MaxPatch.Device.Error
import MaxPatch.Patch

/-! # Boundaries: where a device meets its host

The boundary of a device is a box through which it is fed and a box through which it answers. The
kind of the device says how many channels each of them gives; the box itself may have fewer ports
than that if its type was registered anew, and then the box refuses the port. -/

namespace MaxPatch

/-- The two boxes where a device meets its host. -/
structure Boundary where
  kind : DeviceKind
  input : Handle
  output : Handle
  deriving DecidableEq, Repr

namespace Boundary

/-- Adds the boundary of a kind of device to a patch. -/
def create (kind : DeviceKind) (catalog : Catalog) (p : Patch) : Noted (Boundary × Patch) := do
  let inputContract ← catalog.resolve kind.inputType
  let (input, p) := p.add kind.inputType inputContract "" []
  let outputContract ← catalog.resolve kind.outputType
  let (output, p) := p.add kind.outputType outputContract "" []
  return ({ kind, input, output }, p)

/-- A port of a boundary box, if the device has the channel. -/
def channelPort (kind : DeviceKind) (channels channel : Nat) (port : Except PatchError Port) :
    Except DeviceError Port :=
  if channels ≤ channel then .error (.channelOutOfRange kind channels channel)
  else port.mapError .patch

/-- The outlet that brings a channel into the device. -/
def inputPort (b : Boundary) (channel : Nat) : Except DeviceError Port :=
  channelPort b.kind b.kind.inputChannels channel (b.input.outlet channel)

/-- The inlet that takes a channel out of the device. -/
def outputPort (b : Boundary) (channel : Nat) : Except DeviceError Port :=
  channelPort b.kind b.kind.outputChannels channel (b.output.inlet channel)

end Boundary

end MaxPatch
