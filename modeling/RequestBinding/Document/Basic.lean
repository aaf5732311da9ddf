import RequestBinding.Numeric.Binary64
import RequestBinding.Text.Case

/-!
# Documents

A document is a tree of tables and lists over plain values, as configuration
formats write it. One document is laid over another table by table: a key that
both have is merged again if both values are tables, and is replaced otherwise;
a key that only one has is kept.

Results:
1. `merge_not_table`: whatever is no table replaces what lies below.
2. `mergeEntries_nil`: an empty table changes nothing.
-/

namespace RequestBinding

/-- A tree of values. -/
inductive Document where
  | null
  | flag (value : Bool)
  | integer (value : Int)
  | number (value : Binary64)
  | text (value : String)
  | list (items : List Document)
  | table (entries : List (String × Document))

/-- The formats of documents. -/
inductive DocumentFormat where
  | toml
  | json
deriving DecidableEq

/-- The format of a name, in any letter case. -/
def DocumentFormat.ofName? (name : String) : Option DocumentFormat :=
  if lowerCase name == "toml" then some .toml
  else if lowerCase name == "json" then some .json
  else none

namespace Document

/-- Puts a value in the place of that of a key, or after all others. -/
def put (key : String) (value : Document) :
    List (String × Document) → List (String × Document)
  | [] => [(key, value)]
  | e :: rest => if e.1 = key then (key, value) :: rest else e :: put key value rest

mutual

/-- Lays a document over another. -/
def merge (below : Document) : Document → Document
  | table above =>
    match below with
    | table entries => table (mergeEntries entries above)
    | _ => table above
  | above => above

/-- Lays the entries of a table over those of another. -/
def mergeEntries (below : List (String × Document)) :
    List (String × Document) → List (String × Document)
  | [] => below
  | (key, value) :: rest =>
    mergeEntries (put key (merge ((below.lookup key).getD null) value) below) rest

end

mutual

/-- The document without the numbers that are infinite or not a number, which
become null. -/
def finite : Document → Document
  | number x => if x.isFinite then number x else null
  | list items => list (finiteItems items)
  | table entries => table (finiteEntries entries)
  | d => d

@[inherit_doc finite]
def finiteItems : List Document → List Document
  | [] => []
  | d :: rest => d.finite :: finiteItems rest

@[inherit_doc finite]
def finiteEntries : List (String × Document) → List (String × Document)
  | [] => []
  | (key, d) :: rest => (key, d.finite) :: finiteEntries rest

end

/-- The document is a table. -/
def isTable : Document → Bool
  | table _ => true
  | _ => false

theorem merge_not_table {d : Document} (h : d.isTable = false) (below : Document) :
    merge below d = d := by
  cases d <;> simp_all [merge, isTable]

theorem mergeEntries_nil (below : List (String × Document)) : mergeEntries below [] = below := by
  simp [mergeEntries]

end Document

end RequestBinding
