import MaxPatch.Binary64

/-! # Json: values with ordered members

A value of a document. Whole numbers and binary numbers are kept apart, as they are written
differently. The members of an object keep the order in which their keys were first put in: `insert`
replaces the value of a key that is there, where it stands, and adds a new key at the end.

`Json.ofBinary64` is how a document writes a number: as a whole number where that loses nothing but
the sign of zero. -/

namespace MaxPatch

/-- A value of a document. -/
inductive Json where
  | null
  | bool (b : Bool)
  | int (n : Int)
  | float (x : Binary64)
  | text (s : String)
  | list (items : List Json)
  | object (members : List (String × Json))
  deriving Inhabited

/-- The members of an object, in order. -/
abbrev Members := List (String × Json)

namespace Members

/-- Replaces the value of a key where it stands, or adds the key at the end. -/
def insert : Members → String → Json → Members
  | [], k, v => [(k, v)]
  | (k', v') :: ms, k, v => if k' = k then (k, v) :: ms else (k', v') :: insert ms k v

/-- Puts members in one after the other. -/
def insertAll (ms news : Members) : Members := news.foldl (fun r m => r.insert m.1 m.2) ms

/-- The keys, in order. -/
def keys (ms : Members) : List String := ms.map (·.1)

/-- The value of a key. -/
def get? (ms : Members) (k : String) : Option Json := List.lookup k ms

end Members

namespace Json

/-- A natural number. -/
def nat (n : Nat) : Json := .int n

/-- A list of texts. -/
def texts (ss : List String) : Json := .list (ss.map .text)

/-- The flag as a document writes it: one or zero. -/
def flag (b : Bool) : Json := .int (if b then 1 else 0)

/-- Numbers of at least this size are not all whole numbers' exact values, so they stay binary. -/
def exactLimit : Nat := twoTo 53

/-- A number of a document: whole numbers below `exactLimit` without a fractional part, other finite
numbers as they are, and nothing for the rest. -/
def ofBinary64 (x : Binary64) : Json :=
  if x.isIntegral && x.wholePart < exactLimit then .int x.toInt
  else if x.isFinite then .float x
  else .null

end Json

end MaxPatch
