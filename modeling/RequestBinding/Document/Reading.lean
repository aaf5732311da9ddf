import RequestBinding.Document.Json
import RequestBinding.Document.Toml

/-!
# Reading documents

Both formats of documents are read into the same trees. A word that stands for
one of several choices is written as text; both formats also allow a table whose
one key is the word, over a value that says nothing: null in JSON, an empty list
or table in TOML.
-/

namespace RequestBinding

namespace Document

/-- The document that `s` writes in a format. -/
def read? (format : DocumentFormat) (s : String) : Option Document :=
  match format with
  | .toml => ofToml? s
  | .json => ofJson? s

/-- The document says nothing, as far as the format has a way to do so. -/
def isNothing : DocumentFormat → Document → Bool
  | .json, null => true
  | .toml, list [] => true
  | .toml, table [] => true
  | _, _ => false

/-- The word that a document writes. -/
def word? (format : DocumentFormat) : Document → Option String
  | text s => some s
  | table [(key, d)] => if d.isNothing format then some key else none
  | _ => none

end Document

end RequestBinding
