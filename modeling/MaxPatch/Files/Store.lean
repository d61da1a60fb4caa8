import MaxPatch.Files.Failure
import MaxPatch.Files.Path

/-! # Stores: what the library asks of a file system

Saving needs three things: to ask whether a path exists, to create one directory and to write a
file. Everything else is built from these, so the same code runs on a real file system and on a
`FileTree`. -/

namespace MaxPatch

/-- A monad in which files can be written. -/
class FileStore (m : Type → Type) where
  /-- Whether a path names a file or a directory. -/
  exists? : String → m Bool
  /-- Whether a path names a directory. -/
  isDirectory : String → m Bool
  /-- Creates one directory, in a directory that is there. -/
  createDirectory : String → m (Except FileFailure Unit)
  /-- Writes a file, instead of the one that is there. -/
  write : String → String → m (Except FileFailure Unit)

namespace FileStore

variable {m : Type → Type} [Monad m] [FileStore m]

/-- Creates one directory; that it is there already is no failure. -/
def ensureOne (path : String) : m (Except FileFailure Unit) := do
  match ← createDirectory path with
  | .ok () => return .ok ()
  | .error failure =>
    if ← isDirectory path then return .ok () else return .error failure

/-- Creates the first of some directories, each of which lies in the next. If the next one is
missing it is created before. -/
def createInnermost : List String → m (Except FileFailure Unit)
  | [] => return .ok ()
  | path :: outer => do
    match ← ensureOne path with
    | .error .notFound =>
      match ← createInnermost outer with
      | .ok () => ensureOne path
      | .error failure => return .error failure
    | result => return result

/-- Creates a directory and all those it lies in. -/
def createDirectories (path : String) : m (Except FileFailure Unit) :=
  if path = "" then return .ok () else createInnermost (Path.ancestors path)

/-- Creates a directory unless the path exists. -/
def ensureDirectory (path : String) : m (Except FileFailure Unit) := do
  if ← exists? path then return .ok () else createDirectories path

end FileStore

end MaxPatch
