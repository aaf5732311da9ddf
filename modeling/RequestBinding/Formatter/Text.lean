import RequestBinding.Formatter.Reader
import RequestBinding.MediaType.Collection

/-!
# Formatters of text

A text formatter accepts the media types that it supports, decodes the body, and
hands the text to its reader. In order:

* a declared length of zero is an empty input, and the body is left alone;
* a failure of the connection ends the read;
* a body of no bytes is an empty input;
* the encoding is the declared charset, which must be known and supported, or
  the first supported one; there must be one;
* bytes that are not in the encoding are a format error;
* the reader decides about the text.

Results:
1. `read_of_declared_empty`: a declared length of zero leaves the body alone.
-/

namespace RequestBinding

/-- A formatter of text. `acceptsModel` says which models its reader makes. -/
structure TextFormatter where
  name : String
  reader : TextReader
  acceptsModel : ModelMetadata → Bool := fun _ => true
  mediaTypes : MediaTypeCollection := .empty
  encodings : List Encoding := []
  convertsExceptions : Bool := false

namespace TextFormatter

/-- The formatter of a reader, under the common name and with UTF-8. -/
def ofReader (reader : TextReader) : TextFormatter where
  name := "TextInputFormatter"
  reader := reader
  encodings := [.utf8]

/-- Supports a media type. -/
def withMediaType (f : TextFormatter) (s : String) : Except MediaTypeError TextFormatter :=
  match f.mediaTypes.add s with
  | .ok types => .ok { f with mediaTypes := types }
  | .error e => .error e

/-- Supports an encoding, after the others. -/
def withEncoding (f : TextFormatter) (e : Encoding) : TextFormatter :=
  if e ∈ f.encodings then f else { f with encodings := f.encodings ++ [e] }

/-- The error of a formatter without encodings. -/
def noEncodingMessage (name : String) : String :=
  "No encoding found for input formatter '" ++ name ++
    "'. There must be at least one supported encoding registered in order for the formatter " ++
    "to read content."

/-- The encoding by which a body is read. -/
def selectEncoding (f : TextFormatter) (c : FormatterContext) : Except ReadError Encoding :=
  match f.encodings with
  | [] => .error (.other (noEncodingMessage f.name))
  | first :: _ =>
    match c.charset? with
    | none => .ok first
    | some charset =>
      match Encoding.ofLabel? charset with
      | some e =>
        if e ∈ f.encodings then .ok e
        else .error (.format (.ofContentType (c.contentType?.getD "")))
      | none => .error (.format (.ofContentType (c.contentType?.getD "")))

/-- The formatter accepts the content type and the model. -/
def canRead (f : TextFormatter) (c : FormatterContext) : Bool :=
  match c.mediaType? with
  | none => false
  | some m => f.mediaTypes.accepts m && f.acceptsModel c.metadata

section

variable {m : Type → Type} [Monad m] (f : TextFormatter)
  (reader : FormatterContext → String → m (Except ReadError ReadResult)) (c : FormatterContext)

/-- Reads the bytes of a body with a reader that sees the context and may act in `m`. -/
def readBytesWith (bs : Bytes) : m (Except ReadError ReadResult) :=
  if bs.isEmpty then pure (.ok (.ofEmpty c))
  else
    match f.selectEncoding c with
    | .error e => pure (.error e)
    | .ok encoding =>
      match encoding.decode bs with
      | .error e => pure (.error (.format (.ofDecodeFailure e)))
      | .ok text => reader c text

/-- Reads the body of a request with such a reader, which finds the body consumed. -/
def readWith : m (Except ReadError ReadResult × Body) :=
  if c.request.headers.contentLength? = some 0 then pure (.ok (.ofEmpty c), c.request.body)
  else
    match c.request.body.readToEnd with
    | (.error e, body) => pure (.error (.io e), body)
    | (.ok bs, body) => do
      let result ← f.readBytesWith reader (c.withBody body) bs
      pure (result, body)

end

/-- Reads the bytes of a body. -/
def readBytes (f : TextFormatter) (c : FormatterContext) (bs : Bytes) :
    Except ReadError ReadResult :=
  Id.run (f.readBytesWith (fun _ text => pure (f.reader text)) c bs)

/-- Reads the body of a request. -/
def read (f : TextFormatter) (c : FormatterContext) : Except ReadError ReadResult × Body :=
  Id.run (f.readWith (fun _ text => pure (f.reader text)) c)

/-- The formatter among others of a family. -/
def toFormatter (f : TextFormatter) (family : String) : InputFormatter where
  name := f.name
  family := family
  canRead := f.canRead
  read := f.read
  convertsExceptions := f.convertsExceptions

/-- The formatter as it is shown to a developer. -/
def describe (f : TextFormatter) : String :=
  showRecord "TextInputFormatter"
    [("name", quoted f.name), ("media_types", f.mediaTypes.describe),
     ("encodings", showList (f.encodings.map Encoding.describe)),
     ("send_bad_request_for_exceptions", showBool f.convertsExceptions)] true

theorem read_of_declared_empty {c : FormatterContext}
    (h : c.request.headers.contentLength? = some 0) (f : TextFormatter) :
    f.read c = (.ok (.ofEmpty c), c.request.body) := by
  unfold read readWith
  rw [if_pos h]
  rfl

end TextFormatter

end RequestBinding
