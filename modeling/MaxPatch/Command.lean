import MaxPatch.Command.Usage
import MaxPatch.Device.Error

/-! # Commands: what can be asked for on the command line

There are four commands: to list the types of the built-in catalog, to list the bundled devices, to
build some of them, and to write the scaffold of a new one. `Command.parse` reads one from its
arguments. -/

namespace MaxPatch

/-- Which bundled devices to build, and where to. -/
structure BuildRequest where
  names : List String := []
  all : Bool := false
  folder : Option String := none
  toOutput : Bool := false
  deriving DecidableEq, Repr

/-- What can be asked for. -/
inductive Command where
  | list (category : Option String)
  | devices
  | build (request : BuildRequest)
  | scaffold (name : String) (kind : DeviceKind) (folder : String)
  deriving DecidableEq, Repr

namespace Command

/-- A flag. -/
def flag (long : String) (short : Option Char) : OptionSpec := { long, short, shape := .flag }

/-- An option that takes any text. -/
def anyText (long : String) (short : Char) : OptionSpec :=
  { long, short := some short, shape := .value fun _ => none }

/-- An option that takes a path, which is not empty. -/
def path (long : String) (short : Char) : OptionSpec :=
  { long, short := some short
    shape := .value fun s => if s = "" then some .missingValue else none }

/-- An option that takes a kind of device. -/
def kind (long : String) (short : Char) : OptionSpec :=
  { long, short := some short
    shape := .value fun s => if (DeviceKind.find? s).isSome then none else some .badValue }

/-- The arguments of the command that lists types. -/
def listGrammar : Grammar := { options := [anyText "category" 'c'], mostOperands := some 0 }

/-- The arguments of the command that lists devices. -/
def devicesGrammar : Grammar := { options := [], mostOperands := some 0 }

/-- The arguments of the command that builds devices. -/
def buildGrammar : Grammar :=
  { options := [flag "all" (some 'a'), path "out-dir" 'o', flag "stdout" none]
    mostOperands := none }

/-- The arguments of the command that writes scaffolds. -/
def scaffoldGrammar : Grammar :=
  { options := [kind "kind" 'k', path "dir" 'd'], mostOperands := some 1 }

/-- Whether arguments for building exclude each other. -/
def BuildRequest.conflicts (r : BuildRequest) : Bool :=
  (r.all && r.names ≠ []) || (r.toOutput && (r.all || r.folder.isSome))

/-- Reads what to build. -/
def parseBuild (args : List String) : Except UsageError Command := do
  let a ← buildGrammar.parse args
  let request : BuildRequest :=
    { names := a.operands, all := a.has "all", folder := a.value? "out-dir"
      toOutput := a.has "stdout" }
  if BuildRequest.conflicts request then throw .conflict
  return .build request

/-- Reads which scaffold to write. -/
def parseScaffold (args : List String) : Except UsageError Command := do
  let a ← scaffoldGrammar.parse args
  match a.operands with
  | [] => throw .missingOperand
  | name :: _ =>
    let kind := (a.value? "kind").bind DeviceKind.find?
    return .scaffold name (kind.getD .audioEffect) ((a.value? "dir").getD "devices")

/-- The commands with their arguments, one to a line. -/
def synopsis : List String :=
  ["list [-c|--category NAME]",
   "devices",
   "build [NAMES...] [-a|--all] [-o|--out-dir DIR] [--stdout]",
   "init NAME [-k|--kind KIND] [-d|--dir DIR]"]

/-- Reads a command. -/
def parse : List String → Except UsageError Command
  | "list" :: args => do return .list ((← listGrammar.parse args).value? "category")
  | "devices" :: args => do let _ ← devicesGrammar.parse args; return .devices
  | "build" :: args => parseBuild args
  | "init" :: args => parseScaffold args
  | _ => .error .unknownCommand

end Command

end MaxPatch
