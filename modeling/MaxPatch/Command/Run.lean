import MaxPatch.Command
import MaxPatch.Command.Scaffold
import MaxPatch.Command.Table
import MaxPatch.Device.Save

/-! # Running commands

A run prints lines, reports notices, and succeeds or fails. It works in any monad in which files can
be written, so the command line and a `FileTree` run the same code. -/

namespace MaxPatch

/-- Why a command fails. -/
inductive CommandError where
  | unknownCategory (name : String)
  | nothingToBuild
  | unknownDevice (name : String)
  | notExactlyOne
  | building (id : String) (cause : DeviceError)
  | printing (cause : PatchError)
  | saving (id : String) (cause : DeviceError)
  | namelessDevice
  | alreadyThere (path : String)
  | creating (path : String) (cause : FileFailure)
  | writing (path : String) (cause : FileFailure)
  deriving DecidableEq, Repr

/-- What was being done when an error came up, and the trace of the error. -/
def during (activity : String) (cause : DeviceError) : String :=
  ": ".intercalate (activity :: cause.trace)

/-- What a user is told. -/
def CommandError.message : CommandError → String
  | unknownCategory name =>
    "Unknown category: " ++ name ++ " (expected one of: "
      ++ ", ".intercalate (Category.all.map (·.name)) ++ ")"
  | nothingToBuild => "No devices given. Pass device ids or --all (see 'patchkit devices')."
  | unknownDevice name => "Unknown device: " ++ name ++ " (see 'patchkit devices')"
  | notExactlyOne => "--stdout takes exactly one device"
  | building id cause => during ("building " ++ id) cause
  | printing cause => cause.message
  | saving id cause => during ("saving " ++ id) cause
  | namelessDevice => "Device name must contain at least one letter or digit"
  | alreadyThere path => path ++ " already exists"
  | creating path cause => "creating " ++ path ++ ": " ++ cause.message
  | writing path cause => "writing " ++ path ++ ": " ++ cause.message

/-- What a run comes to. -/
structure Report where
  lines : List String := []
  notices : List Notice := []
  result : Except CommandError Unit := .ok ()

namespace Command

/-- The run of a command that only prints. -/
def printed (lines : List String) : Report := { lines }

/-- The run of a command that fails. -/
def failed (e : CommandError) : Report := { result := .error e }

/-- Lists types. -/
def runList : Option String → Report
  | none => printed (Table.countedNames "Registered Max objects" Catalog.builtin.names)
  | some name =>
    match Category.find? name with
    | some category =>
      printed (Table.countedNames category.name (Catalog.builtin.namesIn category))
    | none => failed (.unknownCategory name)

/-- The bundled devices that are asked for. -/
def selected (r : BuildRequest) : Except CommandError (List BundledDevice) :=
  if r.all then .ok BundledDevice.all
  else if r.names = [] then .error .nothingToBuild
  else r.names.mapM fun name =>
    match BundledDevice.find? name with
    | some d => .ok d
    | none => .error (.unknownDevice name)

/-- Prints the document of a bundled device. -/
def runPrint (entry : BundledDevice) : Report :=
  let written : Noted (Except CommandError String) := do
    match ← entry.build with
    | .error e => return .error (.building entry.id e)
    | .ok d => return ((← d.serialize).1.mapError .printing)
  match written with
  | ⟨.ok text, notices⟩ => { lines := [text], notices }
  | ⟨.error e, notices⟩ => { notices, result := .error e }

section Files

variable {m : Type → Type} [Monad m] [FileStore m]

/-- Saves a bundled device. -/
def saveBundled (home : String) (o : SaveOptions) (entry : BundledDevice) : m Report := do
  let ⟨built, notices⟩ := entry.build
  match built with
  | .error e => return { notices, result := .error (.building entry.id e) }
  | .ok d =>
    let ⟨(saved, _), more⟩ ← d.save home o
    match saved with
    | .error e => return { notices := notices ++ more, result := .error (.saving entry.id e) }
    | .ok _ => return { notices := notices ++ more }

/-- Saves bundled devices one after the other, up to the first one that fails. -/
def saveEach (home : String) (o : SaveOptions) : List BundledDevice → m Report
  | [] => return {}
  | entry :: entries => do
    let first ← saveBundled home o entry
    match first.result with
    | .error _ => return first
    | .ok () =>
      let rest ← saveEach home o entries
      return { rest with notices := first.notices ++ rest.notices }

/-- Builds bundled devices. -/
def runBuild (home : String) (r : BuildRequest) : m Report :=
  match selected r with
  | .error e => return failed e
  | .ok entries =>
    if r.toOutput then
      match entries with
      | [entry] => return runPrint entry
      | _ => return failed .notExactlyOne
    else saveEach home { folder := r.folder } entries

/-- Writes a scaffold. A file that is there is left alone. -/
def runScaffold (name : String) (kind : DeviceKind) (folder : String) : m Report := do
  let stem := Scaffold.snakeCase name
  if stem = "" then return failed .namelessDevice
  let path := Path.join folder (stem ++ ".rs")
  if ← FileStore.exists? path then return failed (.alreadyThere path)
  match ← FileStore.createDirectories folder with
  | .error cause => return failed (.creating folder cause)
  | .ok () =>
    match ← FileStore.write path (Scaffold.render name kind) with
    | .error cause => return failed (.writing path cause)
    | .ok () => return printed ["Created " ++ path ++ " (" ++ kind.title ++ ")"]

/-- Runs a command. -/
def run (home : String) : Command → m Report
  | .list category => return runList category
  | .devices => return printed Table.devices
  | .build request => runBuild home request
  | .scaffold name kind folder => runScaffold name kind folder

end Files

end Command

end MaxPatch
