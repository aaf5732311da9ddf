import RequestBinding.Grouped
import RequestBinding.Text.Utf8

/-!
# Forms

A form holds the values of its fields, grouped by key, and its files in the
order in which they came. A field may have several values; looked up by key
alone it gives the first.
-/

namespace RequestBinding

/-- A file of a form. -/
structure FormFile where
  name : String
  fileName : String
  contentType? : Option String
  data : Bytes
deriving DecidableEq

/-- The fields and files of a form. -/
structure Form where
  fields : Grouped String
  files : List FormFile
deriving DecidableEq

namespace Form

def empty : Form := ⟨.empty, []⟩

/-- Adds a value under a key. -/
def pushValue (f : Form) (key value : String) : Form :=
  { f with fields := f.fields.push key value }

/-- Adds a file after the others. -/
def pushFile (f : Form) (file : FormFile) : Form :=
  { f with files := f.files ++ [file] }

/-- The form of a list of pairs, in its order. -/
def ofPairs (pairs : List (String × String)) : Form :=
  ⟨.ofList pairs, []⟩

/-- The first value of a key. -/
def get? (f : Form) (key : String) : Option String :=
  ((f.fields.get? key).getD []).head?

/-- All values of a key. -/
def getAll (f : Form) (key : String) : List String :=
  (f.fields.get? key).getD []

def contains (f : Form) (key : String) : Bool :=
  f.fields.contains key

/-- The first file of a name. -/
def file? (f : Form) (name : String) : Option FormFile :=
  f.files.find? fun file => file.name == name

/-- The number of keys. -/
def size (f : Form) : Nat :=
  f.fields.size

def isEmpty (f : Form) : Bool :=
  f.fields.isEmpty && f.files.isEmpty

/-- The number of values and files. -/
def count (f : Form) : Nat :=
  f.fields.count + f.files.length

end Form

end RequestBinding
