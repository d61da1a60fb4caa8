/-! # Failures of the file system

The causes for which a path cannot be used. The operating system reports each of them under a number,
except that a name with a NUL in it never gets as far. -/

namespace MaxPatch

/-- Why a path cannot be used. -/
inductive FileFailure where
  | notFound
  | alreadyExists
  | notADirectory
  | isADirectory
  | nameTooLong
  | nulInName
  deriving DecidableEq, Repr

namespace FileFailure

/-- Every cause. -/
def all : List FileFailure :=
  [notFound, alreadyExists, notADirectory, isADirectory, nameTooLong, nulInName]

/-- The number under which the operating system reports a cause. -/
def number? : FileFailure → Option Nat
  | notFound => some 2
  | alreadyExists => some 17
  | notADirectory => some 20
  | isADirectory => some 21
  | nameTooLong => some 36
  | nulInName => none

/-- The cause that is reported under a number. -/
def ofNumber? (n : Nat) : Option FileFailure := all.find? (·.number? = some n)

/-- The cause in words. -/
def words : FileFailure → String
  | notFound => "No such file or directory"
  | alreadyExists => "File exists"
  | notADirectory => "Not a directory"
  | isADirectory => "Is a directory"
  | nameTooLong => "File name too long"
  | nulInName => "file name contained an unexpected NUL byte"

/-- What a user is told: the words, and the number if there is one. -/
def message (f : FileFailure) : String :=
  match f.number? with
  | some n => f.words ++ " (os error " ++ toString n ++ ")"
  | none => f.words

end FileFailure

end MaxPatch
