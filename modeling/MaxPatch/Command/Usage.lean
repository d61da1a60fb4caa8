/-! # Usage: options on a command line

A grammar lists the options of a command and how many operands it takes. `Grammar.parse` reads
arguments by it: `--long value`, `--long=value`, `-s value`, `-svalue` and `-s=value`; flags without
a value may share one hyphen; after `--` everything is an operand.

The value of an option is examined when the next argument that the grammar knows has been read, or
at the end. So an argument that the grammar does not know is reported before a bad value that stands
in front of it. Conflicts between arguments come after all faults in single ones, and a missing
operand comes last. -/

namespace MaxPatch

/-- Why arguments are refused. -/
inductive UsageError where
  /-- No command has this name. -/
  | unknownCommand
  /-- An option that the command does not have, or an operand too many. -/
  | unknownArgument
  /-- An option without a value, or with an empty one where that means nothing. -/
  | missingValue
  /-- A value that the option does not accept. -/
  | badValue
  /-- A value for a flag. -/
  | superfluousValue
  /-- Arguments that exclude each other, or an option that is given twice. -/
  | conflict
  /-- An operand that must be given. -/
  | missingOperand
  /-- Not a fault: the user asks for help. -/
  | helpWanted
  deriving DecidableEq, Repr

/-- What a user is told. -/
def UsageError.message : UsageError → String
  | unknownCommand => "unrecognized command"
  | unknownArgument => "unexpected argument"
  | missingValue => "a value is required for an option"
  | badValue => "invalid value for an option"
  | superfluousValue => "unexpected value for a flag"
  | conflict => "an argument cannot be used with another one or more than once"
  | missingOperand => "a required argument is missing"
  | helpWanted => "see the list of commands"

/-- What an option takes. -/
inductive OptionShape where
  /-- Nothing. -/
  | flag
  /-- Nothing, and it stops everything else. -/
  | help
  /-- A value; the fault of a value, if it has one, is given. -/
  | value (fault? : String → Option UsageError)

/-- An option of a command. -/
structure OptionSpec where
  long : String
  short : Option Char
  shape : OptionShape

/-- The options of a command, and how many operands it takes at most, if there is a bound. -/
structure Grammar where
  options : List OptionSpec
  mostOperands : Option Nat

/-- What stands on a command line. -/
structure Arguments where
  /-- The options given, by their long names, with their values; a flag has an empty one. -/
  options : List (String × String) := []
  operands : List String := []
  deriving DecidableEq, Repr

namespace Arguments

/-- The value of an option. -/
def value? (a : Arguments) (long : String) : Option String := a.options.lookup long

/-- Whether an option is given. -/
def has (a : Arguments) (long : String) : Bool := (a.value? long).isSome

end Arguments

/-- An option whose value has still to be examined. -/
inductive Pending where
  | nothing
  /-- An option that waits for its value. -/
  | awaiting (o : OptionSpec)
  /-- An option with its value. -/
  | given (o : OptionSpec) (value : String)

/-- How far the arguments have been read. -/
structure Reading where
  arguments : Arguments := {}
  pending : Pending := .nothing
  operandsOnly : Bool := false

namespace Reading

/-- Takes an option with its value, unless it is there already or the value is refused. -/
def take (r : Reading) (o : OptionSpec) (value : String) : Except UsageError Reading :=
  if r.arguments.has o.long then .error .conflict
  else
    let fault? := match o.shape with
      | .value fault? => fault? value
      | _ => none
    match fault? with
    | some fault => .error fault
    | none =>
      let options := r.arguments.options ++ [(o.long, value)]
      .ok { r with arguments := { r.arguments with options } }

/-- Examines the option that is pending. -/
def settle (r : Reading) : Except UsageError Reading :=
  match r.pending with
  | .nothing => .ok r
  | .awaiting _ => .error .missingValue
  | .given o value => take { r with pending := .nothing } o value

/-- Takes an option and the value that is attached to it, if any. -/
def option (r : Reading) (o : OptionSpec) (attached : Option String) :
    Except UsageError Reading := do
  match o.shape, attached with
  | .value _, some value => (← r.settle).take o value
  | .value _, none => return { ← r.settle with pending := .awaiting o }
  | .flag, none => (← r.settle).take o ""
  | .help, none => let _ ← r.settle; throw .helpWanted
  | _, some _ => throw .superfluousValue

/-- Takes an operand, if there is room for it. -/
def operand (g : Grammar) (r : Reading) (arg : String) : Except UsageError Reading := do
  if g.mostOperands.any (· ≤ r.arguments.operands.length) then throw .unknownArgument
  let r ← r.settle
  return { r with arguments := { r.arguments with operands := r.arguments.operands ++ [arg] } }

/-- Takes an argument that is not an option: the value that an option waits for, or an operand. -/
def plain (g : Grammar) (r : Reading) (arg : String) : Except UsageError Reading :=
  match r.pending with
  | .awaiting o =>
    if r.operandsOnly then r.operand g arg else .ok { r with pending := .given o arg }
  | _ => r.operand g arg

/-- Takes the letters behind a hyphen. The first option that takes a value takes all the rest. -/
def letters (g : Grammar) (r : Reading) : List Char → Except UsageError Reading
  | [] => .ok r
  | c :: rest =>
    match g.options.find? (·.short = some c) with
    | none => .error .unknownArgument
    | some o =>
      match o.shape with
      | .value _ =>
        match rest with
        | [] => r.option o none
        | '=' :: value => r.option o (some (String.ofList value))
        | value => r.option o (some (String.ofList value))
      | _ => do letters g (← r.option o none) rest

/-- Takes what stands behind two hyphens: a name and, after an equals sign, a value. -/
def word (g : Grammar) (r : Reading) (cs : List Char) : Except UsageError Reading :=
  let name := String.ofList (cs.takeWhile (· ≠ '='))
  let attached := match cs.dropWhile (· ≠ '=') with
    | [] => none
    | _ :: value => some (String.ofList value)
  match g.options.find? (·.long = name) with
  | none => .error .unknownArgument
  | some o => r.option o attached

/-- Takes an argument. -/
def next (g : Grammar) (r : Reading) (arg : String) : Except UsageError Reading :=
  if r.operandsOnly then r.plain g arg
  else
    match arg.toList with
    | ['-', '-'] => .ok { r with operandsOnly := true }
    | '-' :: '-' :: cs => r.word g cs
    | ['-'] => r.plain g arg
    | '-' :: cs => r.letters g cs
    | _ => r.plain g arg

end Reading

namespace Grammar

/-- The option that every command has. -/
def helpOption : OptionSpec := { long := "help", short := some 'h', shape := .help }

/-- Reads arguments. -/
def parse (g : Grammar) (args : List String) : Except UsageError Arguments := do
  let g := { g with options := g.options ++ [helpOption] }
  let r ← args.foldlM (Reading.next g) {}
  return (← r.settle).arguments

end Grammar

end MaxPatch
