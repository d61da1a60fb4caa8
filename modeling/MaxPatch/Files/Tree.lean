import MaxPatch.Files.Store

/-! # File trees: a file system as a value

A tree holds directories and files under their places, the lists of names that lead to them from the
root; the root is always there. Paths are read from a working directory. They are walked name by
name, and each fault is found where the walk meets it: a missing directory, a file on the way, a
name that is too long. -/

namespace MaxPatch

/-- What stands at a place. -/
inductive FileEntry where
  | directory
  | file (text : String)
  deriving DecidableEq, Repr

/-- A place: the names that lead to it from the root. -/
abbrev Place := List String

/-- Directories and files, and the directory one works in. -/
structure FileTree where
  entries : List (Place × FileEntry) := []
  workplace : Place := []
  deriving DecidableEq, Repr

namespace FileTree

/-- The greatest size of a name. -/
def nameLimit : Nat := 255

/-- The least size at which a path is too long. -/
def pathLimit : Nat := 4096

/-- What stands at a place. -/
def entry? (t : FileTree) : Place → Option FileEntry
  | [] => some .directory
  | place => t.entries.lookup place

/-- Puts an entry at a place, instead of the one that is there. -/
def put (t : FileTree) (place : Place) (e : FileEntry) : FileTree :=
  { t with entries := (place, e) :: t.entries.filter (·.1 ≠ place) }

/-- One step of a walk: the directory that a name leads to from a directory. -/
def enter (t : FileTree) (here : Place) (name : String) : Except FileFailure Place :=
  if name = "." then .ok here
  else if name = ".." then .ok here.dropLast
  else if nameLimit < name.utf8ByteSize then .error .nameTooLong
  else
    match t.entry? (here ++ [name]) with
    | none => .error .notFound
    | some (.file _) => .error .notADirectory
    | some .directory => .ok (here ++ [name])

/-- The directory that names lead to, one after the other. -/
def walk (t : FileTree) : Place → List String → Except FileFailure Place
  | here, [] => .ok here
  | here, name :: names => do t.walk (← t.enter here name) names

/-- Where the last name of a path points. -/
inductive Target where
  /-- A directory that is named by dots, or the root. -/
  | directory (place : Place)
  /-- A name in a directory that is there, with a slash behind it or not. -/
  | name (place : Place) (name : String) (slash : Bool)

/-- Walks a path up to its last name. -/
def resolve (t : FileTree) (path : String) : Except FileFailure Target := do
  if path.toList.contains '\x00' then throw .nulInName
  if path = "" then throw .notFound
  if pathLimit ≤ path.utf8ByteSize then throw .nameTooLong
  let start := if Path.isAbsolute path then [] else t.workplace
  let names := Path.names path
  match names.getLast? with
  | none => return .directory start
  | some last =>
    let here ← t.walk start names.dropLast
    if last = "." || last = ".." then return .directory (← t.enter here last)
    return .name here last (Path.endsInSlash path)

/-- What a path names. -/
def status (t : FileTree) (path : String) : Except FileFailure FileEntry := do
  match ← t.resolve path with
  | .directory _ => return .directory
  | .name here name slash =>
    if nameLimit < name.utf8ByteSize then throw .nameTooLong
    match t.entry? (here ++ [name]) with
    | none => throw .notFound
    | some .directory => return .directory
    | some (.file text) => if slash then throw .notADirectory else return .file text

/-- Whether a path names something. -/
def pathExists (t : FileTree) (path : String) : Bool := (t.status path).isOk

/-- Whether a path names a directory. -/
def pathIsDirectory (t : FileTree) (path : String) : Bool :=
  match t.status path with
  | .ok .directory => true
  | _ => false

/-- Creates one directory. -/
def createDirectory (t : FileTree) (path : String) : Except FileFailure FileTree := do
  match ← t.resolve path with
  | .directory _ => throw .alreadyExists
  | .name here name _ =>
    if nameLimit < name.utf8ByteSize then throw .nameTooLong
    match t.entry? (here ++ [name]) with
    | some _ => throw .alreadyExists
    | none => return t.put (here ++ [name]) .directory

/-- Writes a file. A path with a slash at its end never names one. -/
def write (t : FileTree) (path text : String) : Except FileFailure FileTree := do
  match ← t.resolve path with
  | .directory _ => throw .isADirectory
  | .name here name slash =>
    if slash then throw .isADirectory
    if nameLimit < name.utf8ByteSize then throw .nameTooLong
    match t.entry? (here ++ [name]) with
    | some .directory => throw .isADirectory
    | _ => return t.put (here ++ [name]) (.file text)

/-- The text of the file that a path names. -/
def read? (t : FileTree) (path : String) : Option String :=
  match t.status path with
  | .ok (.file text) => some text
  | _ => none

/-! ## Listing -/

/-- Puts a listed path in its place among paths in increasing order. -/
def insertListed (e : String × FileEntry) : List (String × FileEntry) → List (String × FileEntry)
  | [] => [e]
  | x :: xs => if e.1 < x.1 then e :: x :: xs else x :: insertListed e xs

/-- What lies below the working directory, in increasing order of the paths from there; the paths of
directories end in a slash. -/
def listing (t : FileTree) : List (String × FileEntry) :=
  let below := t.entries.filterMap fun (place, e) =>
    if t.workplace.isPrefixOf place && place ≠ t.workplace then
      let path := "/".intercalate (place.drop t.workplace.length)
      some (match e with
        | .directory => (path ++ "/", .directory)
        | .file text => (path, .file text))
    else none
  below.foldl (fun sorted e => insertListed e sorted) []

/-! ## A tree as a store -/

/-- Runs a change of the tree; a failed one leaves it as it was. -/
def change (f : FileTree → Except FileFailure FileTree) :
    StateM FileTree (Except FileFailure Unit) :=
  fun t =>
    match f t with
    | .ok t' => (.ok (), t')
    | .error failure => (.error failure, t)

instance : FileStore (StateM FileTree) where
  exists? path := fun t => (t.pathExists path, t)
  isDirectory path := fun t => (t.pathIsDirectory path, t)
  createDirectory path := change (·.createDirectory path)
  write path text := change (·.write path text)

theorem answer_bind {α β : Type} (P : β → Prop) (x : StateM FileTree α)
    {f : α → StateM FileTree β} (h : ∀ a files, P (f a files).1) (files : FileTree) :
    P ((x >>= f) files).1 := h (x files).1 (x files).2

end FileTree

end MaxPatch
