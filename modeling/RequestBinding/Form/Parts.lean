import RequestBinding.Form.Collection
import RequestBinding.Form.Multipart

/-!
# Forms of multipart bodies

A part with a file name is a file; any other is a field, whose data is text in
UTF-8. Each part is checked as it comes, in this order: the number of parts, the
number of its header fields, their length, the length of its name, and for a
field the length of its data and then their encoding. The first violation ends
the read; a missing name is the empty name.
-/

namespace RequestBinding

namespace Multipart

/-- The length of header fields: of all names and values. -/
def headersLength (headers : PartHeaders) : Nat :=
  headers.foldr (fun f n => byteLength f.1 + f.2.length + n) 0

/-- The head of the `count`-th part is within the limits. -/
def checkHead (o : FormOptions) (count : Nat) (h : PartHead) : Except FormError Unit :=
  if o.valueCountLimit.toNat < count then .error (.tooManyValues o.valueCountLimit)
  else if o.multipartHeadersCountLimit.toNat < h.headers.length then
    .error (.tooManyHeaders o.multipartHeadersCountLimit)
  else if o.multipartHeadersLengthLimit.toNat < headersLength h.headers then
    .error (.headersTooLong o.multipartHeadersLengthLimit)
  else if o.keyLengthLimit.toNat < byteLength (h.name?.getD "") then
    .error (.keyTooLong o.keyLengthLimit)
  else .ok ()

/-- The state between events: the form, the number of parts, and the part that
is open with its data. -/
structure Reader where
  form : Form
  count : Nat
  head : PartHead
  data : Bytes

namespace Reader

def start : Reader := ⟨.empty, 0, ⟨none, none, none, []⟩, []⟩

/-- Begins a part. -/
def begin (o : FormOptions) (r : Reader) (h : PartHead) : Except FormError Reader :=
  match checkHead o (r.count + 1) h with
  | .ok () => .ok { r with count := r.count + 1, head := h, data := [] }
  | .error e => .error e

/-- Takes a piece of data; that of a field is limited. -/
def take (o : FormOptions) (r : Reader) (bytes : Bytes) : Except FormError Reader :=
  if r.head.fileName?.isNone && o.valueLengthLimit.toNat < r.data.length + bytes.length then
    .error (.valueTooLong o.valueLengthLimit)
  else .ok { r with data := r.data ++ bytes }

/-- Ends the part. -/
def close (r : Reader) : Except FormError Reader :=
  let name := r.head.name?.getD ""
  match r.head.fileName? with
  | some fileName =>
    .ok { r with form := r.form.pushFile ⟨name, fileName, r.head.contentType?, r.data⟩ }
  | none =>
    match Utf8.decode r.data with
    | .ok value => .ok { r with form := r.form.pushValue name value }
    | .error e => .error (.malformed e.message)

end Reader

/-- Reads events, each with the number of stream items taken by then. -/
def readEvents (o : FormOptions) (r : Reader) :
    List (PartEvent × Nat) → Except FormError Form × Nat
  | [] => (.error (.multipart .incompleteStream), 0)
  | (event, pulled) :: rest =>
    match event with
    | .closed => (.ok r.form, pulled)
    | .failed e => (.error (.ofMultipart e), pulled)
    | .head h =>
      match r.begin o h with
      | .ok r => readEvents o r rest
      | .error e => (.error e, pulled)
    | .data b =>
      match r.take o b with
      | .ok r => readEvents o r rest
      | .error e => (.error e, pulled)
    | .partEnd =>
      match r.close with
      | .ok r => readEvents o r rest
      | .error e => (.error e, pulled)

/-- Reads the form of a stream. -/
def readStream (o : FormOptions) (boundary : String) (stream : BodyStream) :
    Except FormError Form × Nat :=
  readEvents o .start (events o.multipartBodyLengthLimit (Utf8.encode boundary) stream)

/-- Reads the form of a body of a media type. Without a boundary, or with one
that is too long, the body is not touched. -/
def read (o : FormOptions) (m : MediaType) (body : Body) : Except FormError Form × Body :=
  match m.param? "boundary" with
  | none => (.error (.multipart .noBoundary), body)
  | some boundary =>
    if o.multipartBoundaryLengthLimit.toNat < byteLength boundary then
      (.error (.boundaryTooLong o.multipartBoundaryLengthLimit), body)
    else
      body.deliver (readStream o boundary) (.error (.io bodyConsumed))

end Multipart

end RequestBinding
