import RequestBinding.Http.Token
import RequestBinding.Numeric.Integer
import RequestBinding.Text.Blank
import RequestBinding.Text.Case

/-!
# Headers

The header fields of a request, in the order in which they were added. A name
is kept in lower case and may have several values. A field whose name is no
token, or whose value holds a control character other than the tab, is left
out without a word.
-/

namespace RequestBinding

/-- Header fields: names in lower case with the bytes of their values. -/
structure Headers where
  fields : List (String × Bytes)
deriving DecidableEq

namespace Headers

def empty : Headers := ⟨[]⟩

/-- `b` may stand in a header value. -/
def isValueByte (b : UInt8) : Bool :=
  (0x20 ≤ b && b != 0x7F) || b == 0x09

/-- The longest name of a field. -/
def maxNameLength : Nat := 65535

/-- The form in which a name is kept, if it is a token. -/
def name? (name : String) : Option String :=
  if isToken name && byteLength name ≤ maxNameLength then some (asciiLower name) else none

/-- The bytes of a value, if they may stand in a header. -/
def value? (value : String) : Option Bytes :=
  if (Utf8.encode value).all isValueByte then some (Utf8.encode value) else none

/-- Adds a field after the others. -/
def append (h : Headers) (name : String) (value : Bytes) : Headers :=
  ⟨h.fields ++ [(name, value)]⟩

/-- Adds a field given as text, if it may stand in a header. -/
def add (h : Headers) (name value : String) : Headers :=
  match name? name, value? value with
  | some n, some v => h.append n v
  | _, _ => h

/-- The values of a name, in order. -/
def values (h : Headers) (name : String) : List Bytes :=
  h.fields.filterMap fun f => if f.1 = name then some f.2 else none

/-- The first value of a name. -/
def first? (h : Headers) (name : String) : Option Bytes :=
  (h.values name).head?

/-- The names, each once, in the order of their first fields. -/
def names (h : Headers) : List String :=
  (h.fields.map Prod.fst).eraseDups

/-- The declared content type: the first `content-type` as text. -/
def contentType? (h : Headers) : Option String :=
  match h.first? "content-type" with
  | some v => visibleText? v
  | none => none

/-- The declared length: the first `content-length`, a number of 64 bits. -/
def contentLength? (h : Headers) : Option UInt64 :=
  match h.first? "content-length" with
  | some v =>
    match visibleText? v with
    | some s => readUInt64? (trim s)
    | none => none
  | none => none

end Headers

end RequestBinding
