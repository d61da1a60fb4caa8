import MaxPatch.Device
import MaxPatch.Files.Store

/-! # Saving: where a device goes

Without other wishes a device is saved into the folder of its kind in the library of the host, below
the home directory, in a file that has its name. The folder is created if it is missing. The file
name is joined to the folder as paths are joined: one that is absolute goes its own way. -/

namespace MaxPatch

/-- Where to save a device, if not in the usual place. -/
structure SaveOptions where
  folder : Option String := none
  fileName : Option String := none
  deriving DecidableEq, Repr

/-- The folder for the devices of a kind, below a home directory. -/
def DeviceKind.defaultFolder (home : String) (kind : DeviceKind) : String :=
  Path.join (Path.join home "Music/Ableton/User Library/Presets") kind.libraryFolder

/-- The name of the file for a device. -/
def defaultFileName (name : String) : String := name ++ ".maxpat"

namespace Device

/-- The folder that a device is saved into. -/
def saveFolder (d : Device) (home : String) (o : SaveOptions) : String :=
  o.folder.getD (d.kind.defaultFolder home)

/-- The path of the file that a device is saved to. -/
def savePath (d : Device) (home : String) (o : SaveOptions) : String :=
  Path.join (d.saveFolder home o) (o.fileName.getD (defaultFileName d.name))

/-- The notice that a device was saved. -/
def savedNotice (d : Device) (path : String) : Notice :=
  { severity := .info
    text := "saved " ++ d.kind.name ++ " \"" ++ d.name ++ "\" → " ++ path }

/-- Writes the text of a device to its file. -/
def store {m : Type → Type} [Monad m] [FileStore m] (d : Device) (home : String) (o : SaveOptions)
    (text : String) : m (Noted (Except DeviceError String)) := do
  let folder := d.saveFolder home o
  match ← FileStore.ensureDirectory folder with
  | .error cause => return ⟨.error (.createFolder folder cause), []⟩
  | .ok () =>
    let path := d.savePath home o
    match ← FileStore.write path text with
    | .error cause => return ⟨.error (.writeFile path cause), []⟩
    | .ok () => return ⟨.ok path, [d.savedNotice path]⟩

/-- Completes a device and saves it. The answer is the path. -/
def save {m : Type → Type} [Monad m] [FileStore m] (d : Device) (home : String) (o : SaveOptions) :
    m (Noted (Except DeviceError String × Device)) := do
  let ⟨(result, d), notices⟩ := d.serialize
  match result with
  | .error e => return ⟨(.error (.patch e), d), notices⟩
  | .ok text =>
    let ⟨result, more⟩ ← d.store home o text
    return ⟨(result, d), notices ++ more⟩

end Device

end MaxPatch
