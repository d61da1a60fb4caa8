/-! # Paths: names of files

A path is a text in which slashes separate names. One that begins with a slash starts at the root,
any other where one works. Slashes in a row count as one, and a dot names the directory itself. -/

namespace MaxPatch.Path

/-- Cuts a list of characters at every slash. -/
def split : List Char → List (List Char)
  | [] => [[]]
  | c :: cs =>
    if c = '/' then [] :: split cs
    else
      match split cs with
      | part :: parts => (c :: part) :: parts
      | [] => [[c]]

/-- The names along a path, without the empty ones between slashes. -/
def names (path : String) : List String :=
  ((split path.toList).filter (· ≠ [])).map String.ofList

/-- Whether a path starts at the root. -/
def isAbsolute (path : String) : Bool := path.toList.head? = some '/'

/-- Whether a path ends in a slash, so that it can only name a directory. -/
def endsInSlash (path : String) : Bool := path.toList.getLast? = some '/'

/-- The path of `name` seen from the directory `folder`: an absolute one stands for itself. -/
def join (folder name : String) : String :=
  if isAbsolute name || folder = "" then name
  else if endsInSlash folder then folder ++ name
  else folder ++ "/" ++ name

/-- The directories to create so that `path` exists, innermost first: the path itself, then what is
left without its last name, and so on. Dots that name nothing of their own are passed over. -/
def ancestors (path : String) : List String :=
  let all := names path
  let own := if isAbsolute path then all.filter (· ≠ ".")
    else all.take 1 ++ (all.drop 1).filter (· ≠ ".")
  let lead := if isAbsolute path then "/" else ""
  let shorter := (List.range own.length).tail.reverse.map fun n =>
    lead ++ "/".intercalate (own.take n)
  path :: shorter ++ (if isAbsolute path && own ≠ [] then ["/"] else [])

end MaxPatch.Path
