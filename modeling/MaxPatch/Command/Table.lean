import MaxPatch.Bundled
import MaxPatch.Catalog.Builtin

/-! # Tables: what the listing commands print

Names of types stand in four columns of fixed width, without blanks at the ends of lines; bundled
devices have a line each. -/

namespace MaxPatch.Table

/-- A text with spaces behind it up to a width. -/
def pad (width : Nat) (s : String) : String :=
  s ++ String.ofList (List.replicate (width - s.length) ' ')

/-- Rows of so many items, the last of them with what is left. The count bounds how many rows
there are. -/
def rowsOf {α : Type} (width : Nat) : Nat → List α → List (List α)
  | 0, _ => []
  | _, [] => []
  | n + 1, xs => xs.take width :: rowsOf width n (xs.drop width)

/-- Names in columns. -/
def nameColumns (names : List String) : List String :=
  (rowsOf 4 names.length names).map fun row => Text.trimEnd (String.join (row.map (pad 20)))

/-- A heading that counts what follows it, an empty line, and names in columns. -/
def countedNames (heading : String) (names : List String) : List String :=
  (heading ++ " (" ++ toString names.length ++ "):") :: "" :: nameColumns names

/-- A line of the table of bundled devices. -/
def deviceLine (id name kind description : String) : String :=
  "  " ++ pad 14 id ++ "  " ++ pad 14 name ++ "  " ++ pad 14 kind ++ "  " ++ description

/-- The table of bundled devices. -/
def devices : List String :=
  ["Bundled Devices", "===============", "",
   deviceLine "Id" "Name" "Kind" "Description",
   deviceLine "--" "----" "----" "-----------"]
  ++ BundledDevice.all.map (fun d => deviceLine d.id d.name d.kind.title d.description)
  ++ ["", "Use 'patchkit build <id>' to write one, or 'patchkit build --all'."]

end MaxPatch.Table
