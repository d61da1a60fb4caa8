import MaxPatch.Command.Run

/-! # The command line

The outermost layer: it reads the arguments and the home directory, runs the command on the files of
the machine, prints lines to the output and notices and errors to the error output. A command that
fails ends with 1, arguments that are refused with 2. -/

namespace MaxPatch.Machine

/-- The number of an error of the operating system. -/
def errorNumber? : IO.Error → Option Nat
  | .alreadyExists _ n _ | .noFileOrDirectory _ n _ | .inappropriateType _ n _
  | .invalidArgument _ n _ => some n.toNat
  | _ => none

/-- Runs an action on a path. A failure that the library has a name for is a value. -/
def attempt (path : String) (action : IO Unit) : IO (Except FileFailure Unit) := do
  if path.toList.contains '\x00' then return .error .nulInName
  try
    action
    return .ok ()
  catch e =>
    match (errorNumber? e).bind FileFailure.ofNumber? with
    | some failure => return .error failure
    | none => throw e

/-- Whether a path leads anywhere. -/
def leadsSomewhere (path : String) : IO Bool := do
  if path.toList.contains '\x00' then return false
  try
    let _ ← IO.FS.realPath path
    return true
  catch _ => return false

/-- The files of the machine. A path names a directory if one can go on from it to a dot. -/
instance : FileStore IO where
  exists? := leadsSomewhere
  isDirectory path := leadsSomewhere (path ++ "/.")
  createDirectory path := attempt path (IO.FS.createDir path)
  write path text := attempt path (IO.FS.writeFile path text)

/-- Prints what a run comes to. The answer is the exit code. -/
def present (r : Report) : IO UInt32 := do
  for n in r.notices do IO.eprintln (n.severity.name ++ " " ++ n.text)
  for line in r.lines do IO.println line
  match r.result with
  | .ok () => return 0
  | .error e => IO.eprintln ("Error: " ++ e.message); return 1

/-- Reads the arguments and runs the command. The answer is the exit code. -/
def runArguments (args : List String) : IO UInt32 := do
  match Command.parse args with
  | .ok command =>
    let home := (← IO.getEnv "HOME").getD "."
    present (← Command.run home command)
  | .error .helpWanted =>
    for line in Command.synopsis do IO.println line
    return 0
  | .error e => IO.eprintln ("error: " ++ e.message); return 2

end MaxPatch.Machine

def main (args : List String) : IO UInt32 := MaxPatch.Machine.runArguments args
