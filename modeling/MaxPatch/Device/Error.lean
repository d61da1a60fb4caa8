import MaxPatch.Device.Kind
import MaxPatch.Files.Failure
import MaxPatch.Patch.Error

/-! # What can go wrong with a device

The causes for which a step of building or saving a device is refused. -/

namespace MaxPatch

/-- Why a step of building or saving a device is refused. -/
inductive DeviceError where
  /-- The patch of the device refuses it. -/
  | patch (cause : PatchError)
  /-- The boundary of the device has fewer channels. -/
  | channelOutOfRange (kind : DeviceKind) (channels channel : Nat)
  /-- No kind of device has this name. -/
  | unknownKind (name : String)
  /-- The folder to save into cannot be created. -/
  | createFolder (path : String) (cause : FileFailure)
  /-- The file cannot be written. -/
  | writeFile (path : String) (cause : FileFailure)
  deriving DecidableEq, Repr

/-- What a user is told. -/
def DeviceError.message : DeviceError → String
  | patch cause => cause.message
  | channelOutOfRange kind channels channel =>
    kind.title ++ " has " ++ toString channels ++ " channel(s), got " ++ toString channel
  | unknownKind name => "unknown device kind: " ++ name
  | createFolder path cause => "failed to create directory '" ++ path ++ "': " ++ cause.message
  | writeFile path cause => "failed to write file '" ++ path ++ "': " ++ cause.message

/-- The failure of the file system that lies behind an error, if there is one. -/
def DeviceError.failure? : DeviceError → Option FileFailure
  | createFolder _ cause | writeFile _ cause => some cause
  | _ => none

/-- An error traced to its root: what a user is told of it, and then of what lies behind it. -/
def DeviceError.trace (e : DeviceError) : List String :=
  e.message :: (e.failure?.map (·.message)).toList

/-- The kind that a typed name means, or the error that there is none. -/
def DeviceKind.parse (typed : String) : Except DeviceError DeviceKind :=
  match DeviceKind.find? typed with
  | some kind => .ok kind
  | none => .error (.unknownKind typed)

end MaxPatch
