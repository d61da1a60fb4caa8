import MaxPatch.Category
import MaxPatch.Contract
import MaxPatch.Notice

/-! # Catalogs: the types that are known

A catalog files contracts under type names. Its entries are kept in increasing order of their names,
one entry to a name, so listing it needs no sorting. A type that is registered later takes the place
of an earlier one of the same name and belongs to the category `custom`. -/

namespace MaxPatch

/-- A type, its contract and its category. -/
structure CatalogEntry where
  name : String
  contract : Contract
  category : Category
  deriving DecidableEq, Repr

/-- Known types, in increasing order of their names. -/
structure Catalog where
  entries : List CatalogEntry := []
  deriving DecidableEq, Repr

namespace Catalog

/-- No types at all. -/
def empty : Catalog := {}

/-- Puts an entry in its place among entries in order, instead of one of the same name. -/
def place (e : CatalogEntry) : List CatalogEntry → List CatalogEntry
  | [] => [e]
  | x :: xs =>
    if e.name < x.name then e :: x :: xs
    else if e.name = x.name then e :: xs
    else x :: place e xs

/-- Files a type under a category. -/
def file (c : Catalog) (category : Category) (name : String) (contract : Contract) : Catalog :=
  { entries := place { name, contract, category } c.entries }

/-- Files a type that is not part of the catalog from the start. -/
def register (c : Catalog) (name : String) (contract : Contract) : Catalog :=
  c.file .custom name contract

/-- The entry of a type. -/
def entry? (c : Catalog) (name : String) : Option CatalogEntry := c.entries.find? (·.name = name)

/-- The contract of a type. -/
def lookup? (c : Catalog) (name : String) : Option Contract := (c.entry? name).map (·.contract)

/-- The category of a type. -/
def category? (c : Catalog) (name : String) : Option Category := (c.entry? name).map (·.category)

/-- Whether a type is known. -/
def contains (c : Catalog) (name : String) : Bool := (c.entry? name).isSome

/-- The names of all types, in increasing order. -/
def names (c : Catalog) : List String := c.entries.map (·.name)

/-- The names of the types of a category, in increasing order. -/
def namesIn (c : Catalog) (category : Category) : List String :=
  (c.entries.filter (·.category = category)).map (·.name)

/-- How many types are known. -/
def size (c : Catalog) : Nat := c.entries.length

/-- The notice about a type that is not known. -/
def unknownNotice (name : String) : Notice :=
  { severity := .warning
    text := "unknown object \"" ++ name ++ "\", using default 1-in/1-out contract" }

/-- The contract of a type; a type that is not known is reported and gets the fallback. -/
def resolve (c : Catalog) (name : String) : Noted Contract :=
  match c.lookup? name with
  | some contract => pure contract
  | none => do
    Noted.report (unknownNotice name)
    return .fallback

end Catalog

end MaxPatch
