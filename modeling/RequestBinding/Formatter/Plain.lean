import RequestBinding.Formatter.Reader

/-!
# Formatters that look at no media type

A bytes formatter always answers the same to the question whether it can read,
and hands its reader the body in hexadecimal digits, or no text at all when it
leaves the body alone. A default formatter accepts everything and gives the
default value of the model.
-/

namespace RequestBinding

/-- The bytes in hexadecimal, two digits each. -/
def hexText (bs : Bytes) : String :=
  String.ofList (bs.flatMap fun b => [hexDigit (b.toNat / 16), hexDigit (b.toNat % 16)])

/-- A formatter that hands bytes to its reader. -/
structure BytesFormatter where
  name : String
  reader : TextReader
  accepts : Bool := true
  readsBody : Bool := false
  convertsExceptions : Bool := false

namespace BytesFormatter

/-- Reads the body of a request. -/
def read (f : BytesFormatter) (c : FormatterContext) : Except ReadError ReadResult × Body :=
  if f.readsBody then
    match c.request.body.readToEnd with
    | (.error e, body) => (.error (.io e), body)
    | (.ok bs, body) => (f.reader (hexText bs), body)
  else (f.reader "", c.request.body)

/-- The formatter among others of a family. -/
def toFormatter (f : BytesFormatter) (family : String) : InputFormatter where
  name := f.name
  family := family
  canRead := fun _ => f.accepts
  read := f.read
  convertsExceptions := f.convertsExceptions

end BytesFormatter

/-- The formatter that gives the default value of every model. -/
def defaultFormatter (name family : String) : InputFormatter where
  name := name
  family := family
  canRead := fun _ => true
  read := fun c => (.ok (.ofDefault c.metadata), c.request.body)
  convertsExceptions := false

end RequestBinding
