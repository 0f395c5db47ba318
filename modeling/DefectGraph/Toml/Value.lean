import DefectGraph.Number.Binary64

/-!
# Values of a configuration document

## Main Definitions

* `Value` - a value that a key can have.
* `Entry` - what a table holds for a key: a value, or a table that may get further keys.
* `Document` - the entries at the top.

## Design Notes

How a table came about decides what may be added to it, so an `Entry` remembers that and a `Value` does not.
-/

namespace DefectGraph.Toml

open DefectGraph.Number (Binary64)

/-- A value. A date or time is kept as its text. -/
inductive Value where
  | text (text : String)
  | integer (value : Int)
  | float (value : Binary64)
  | bool (value : Bool)
  | date (text : String)
  /-- A list or a table. -/
  | compound
  deriving DecidableEq, Repr

/-- What a key of a table stands for. -/
inductive Entry where
  /-- A value, which nothing can be added to. -/
  | value (value : Value)
  /-- A table. It is implicit until its own header is read; a dotted one comes from a dotted key. -/
  | table (implicit dotted : Bool) (entries : List (String × Entry))
  /-- The tables under a repeated header, the last one first. -/
  | tables (last : List (String × Entry)) (earlier : List (List (String × Entry)))
  deriving Repr

/-- Keys with what they stand for. -/
abbrev Entries : Type := List (String × Entry)

/-- A document: the entries of its outermost table. -/
abbrev Document : Type := Entries

/-- The value of an entry; a table is a compound. -/
def Entry.toValue : Entry → Value
  | .value v => v
  | .table .. | .tables .. => .compound

/-- The entry of a key. -/
def Entries.get? (entries : Entries) (key : String) : Option Entry :=
  entries.lookup key

/-- Gives a key a new entry, in the place of the old one or behind all others. -/
def Entries.put (entries : Entries) (key : String) (entry : Entry) : Entries :=
  if (entries.lookup key).isSome then
    entries.map fun (k, old) => if k == key then (k, entry) else (k, old)
  else entries ++ [(key, entry)]

end DefectGraph.Toml
