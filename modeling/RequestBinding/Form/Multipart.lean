import RequestBinding.Form.Error
import RequestBinding.Form.Options
import RequestBinding.Http.Body
import RequestBinding.Http.Headers
import RequestBinding.MediaType.Reading

/-!
# Multipart bodies

A multipart body is a row of parts between boundaries. It is split as its bytes
arrive, and told as a row of events: the head of a part, pieces of its data, the
end of the part; at last the closing boundary or a failure. What is read of a
form depends on these events alone.

* Before the first boundary anything may stand. After a boundary come two
  hyphens, which close the body, or spaces and tabs and a line break, the header
  lines of a part up to an empty line, and its data up to a line break before
  the next boundary.
* Data that has arrived is told at once, except for an end that could begin a
  boundary.
* The length of the whole stream is limited; the item that exceeds it fails.
* Every event is told with the number of stream items taken by then.

Bytes arrive in batches. An unpaced stream is one batch; a paced one is first
nothing, then one item at a time.
-/

namespace RequestBinding

namespace Multipart

/-! ## Searching bytes -/

/-- Splits `bs` before the first place where `pattern` begins. -/
def splitAt? (pattern : Bytes) (bs : Bytes) : Option (Bytes × Bytes) :=
  if pattern.isPrefixOf bs then some ([], bs)
  else
    match bs with
    | [] => none
    | b :: rest =>
      match splitAt? pattern rest with
      | some (before, after) => some (b :: before, after)
      | none => none

def crlf : Bytes := [0x0D, 0x0A]

def hyphens : Bytes := [0x2D, 0x2D]

/-- The five blanks of ASCII as bytes. -/
def isBlankByte (b : UInt8) : Bool :=
  b == 0x20 || b == 0x09 || b == 0x0A || b == 0x0C || b == 0x0D

/-- `b` is a space or a tab. -/
def isPadding (b : UInt8) : Bool :=
  b == 0x20 || b == 0x09

/-! ## Header lines -/

/-- The header fields of a part; a repeated name keeps its last value. -/
abbrev PartHeaders := List (String × Bytes)

/-- Sets the value of a name. -/
def setHeader (h : PartHeaders) (name : String) (value : Bytes) : PartHeaders :=
  h.filter (fun f => f.1 ≠ name) ++ [(name, value)]

/-- The most header lines of a part. -/
def maxHeaderLines : Nat := 32

/-- Takes a line break, which may lack its carriage return. -/
def dropLineBreak? : Bytes → Option Bytes
  | 0x0D :: 0x0A :: rest => some rest
  | 0x0A :: rest => some rest
  | _ => none

/-- `bs` without the spaces and tabs at its end. -/
def dropTrailingPadding (bs : Bytes) : Bytes :=
  (bs.reverse.dropWhile isPadding).reverse

/-- One header line: its name as it is written, its value, and what follows its
line break. -/
def headerLine? (bs : Bytes) : Option (String × Bytes × Bytes) :=
  let name := bs.takeWhile isTokenByte
  match bs.dropWhile isTokenByte with
  | 0x3A :: rest =>
    let rest := rest.dropWhile isPadding
    let value := rest.takeWhile Headers.isValueByte
    match dropLineBreak? (rest.dropWhile Headers.isValueByte) with
    | some after =>
      if name.isEmpty then none
      else some (Utf8.decodeLossy name, dropTrailingPadding value, after)
    | none => none
  | _ => none

/-- The header lines of a part, which end with an empty line; at most `n`. -/
def headerLines? (n : Nat) (bs : Bytes) : Option (List (String × Bytes)) :=
  match dropLineBreak? bs with
  | some _ => some []
  | none =>
    match n with
    | 0 => none
    | n + 1 =>
      match headerLine? bs with
      | some (name, value, rest) => (headerLines? n rest).map ((name, value) :: ·)
      | none => none

/-- Keeps the fields of header lines under their names in lower case; or the first
name that is too long to be kept. -/
def keepLines (kept : PartHeaders) : List (String × Bytes) → Except String PartHeaders
  | [] => .ok kept
  | (name, value) :: rest =>
    match Headers.name? name with
    | some n => keepLines (setHeader kept n value) rest
    | none => .error name

/-! ## Content disposition -/

/-- Splits a quoted value at the first quote that is not escaped; `previous` is
the byte before. The flag says whether an escaped quote was passed. -/
def quotedValue? (previous : UInt8) : Bytes → Option (Bytes × Bool)
  | [] => none
  | b :: rest =>
    if b == 0x22 && previous != 0x5C then some ([], false)
    else
      match quotedValue? b rest with
      | some (value, escaped) => some (b :: value, escaped || b == 0x22)
      | none => none

/-- Replaces escaped quotes by quotes. -/
def unescapeQuotes : Bytes → Bytes
  | 0x5C :: 0x22 :: rest => 0x22 :: unescapeQuotes rest
  | b :: rest => b :: unescapeQuotes rest
  | [] => []

/-- The value after the name of an attribute: an equals sign, and a quoted value
or one that ends at a semicolon or space. -/
def attributeValue? (bs : Bytes) : Option Bytes :=
  match bs.dropWhile isBlankByte with
  | 0x3D :: rest =>
    match rest.dropWhile isBlankByte with
    | 0x22 :: rest =>
      match quotedValue? 0x22 rest with
      | some (value, escaped) => some (if escaped then unescapeQuotes value else value)
      | none => none
    | rest => some (rest.takeWhile fun b => b != 0x3B && b != 0x20)
  | _ => none

/-- The value of an attribute. Its name counts where it begins the header, or
follows a blank or a semicolon; after a place where it does not count, the rest
is looked at as if it were a header of its own. -/
def attribute? (name : Bytes) (previous? : Option UInt8) (bs : Bytes) : Option Bytes :=
  match bs with
  | [] => none
  | b :: rest =>
    if name.isPrefixOf (b :: rest) then
      let after := (b :: rest).drop name.length
      match previous? with
      | none => attributeValue? after
      | some p =>
        if isBlankByte p || p == 0x3B then attributeValue? after
        else if name.length = 0 then none
        else attribute? name none after
    else attribute? name (some b) rest
termination_by bs.length
decreasing_by
  · simp only [List.length_drop, List.length_cons]; omega
  · simp

/-- The text of an attribute, if it is UTF-8. -/
def attributeText? (name : String) (headers : PartHeaders) : Option String :=
  match headers.lookup "content-disposition" with
  | some value =>
    match attribute? (Utf8.encode name) none value with
    | some bs => (Utf8.decode bs).toOption
    | none => none
  | none => none

/-! ## Events -/

/-- The head of a part. -/
structure PartHead where
  name? : Option String
  fileName? : Option String
  contentType? : Option String
  headers : PartHeaders
deriving DecidableEq

/-- The head that header fields amount to. -/
def PartHead.ofHeaders (headers : PartHeaders) : PartHead where
  name? := attributeText? "name" headers
  fileName? := attributeText? "filename" headers
  contentType? :=
    match headers.lookup "content-type" with
    | some v =>
      match visibleText? v with
      | some s => (MediaType.read? s).map (·.text)
      | none => none
    | none => none
  headers := headers

/-- What a multipart body is told as. -/
inductive PartEvent where
  /-- A part begins. -/
  | head (h : PartHead)
  /-- A piece of its data. -/
  | data (bytes : Bytes)
  /-- The part ends. -/
  | partEnd
  /-- The body is closed. -/
  | closed
  /-- The body cannot be read further. -/
  | failed (error : MultipartError)
deriving DecidableEq

/-! ## Splitting what has arrived -/

/-- What the next bytes are. -/
inductive Stage where
  /-- Anything before the first boundary. -/
  | preamble
  /-- A boundary. -/
  | boundary
  /-- The two bytes after a boundary. -/
  | kind
  /-- The spaces and tabs and the line break after a boundary. -/
  | padding
  /-- Header lines. -/
  | headers
  /-- The data of the part of a name. -/
  | data (name? : Option String)
deriving DecidableEq

/-- What can be done with the bytes that have arrived. -/
inductive Action where
  /-- More bytes are needed; what is left of those that arrived is `rest`. -/
  | wait (stage : Stage) (rest : Bytes)
  /-- Events are told, and the bytes after them are `rest`. -/
  | tell (events : List PartEvent) (stage : Stage) (rest : Bytes)
  /-- The last event is told. -/
  | stop (event : PartEvent)
deriving DecidableEq

/-- More bytes are needed; `ended` says that there are none. -/
def Action.short (ended : Bool) (stage : Stage) (rest : Bytes) : Action :=
  if ended then .stop (.failed .incompleteStream) else .wait stage rest

/-- Reads the header lines of a part. -/
def readHeaders (ended : Bool) (bs : Bytes) : Action :=
  match splitAt? (crlf ++ crlf) bs with
  | none => .short ended .headers bs
  | some (before, rest) =>
    match headerLines? maxHeaderLines (before ++ crlf ++ crlf) with
    | none => .stop (.failed .unreadableHeaders)
    | some lines =>
      match keepLines [] lines with
      | .ok headers =>
        let head := PartHead.ofHeaders headers
        .tell [.head head] (.data head.name?) (rest.drop 4)
      | .error name => .stop (.failed (.unkeptHeader name))

/-- Reads the rest of the line of a boundary. -/
def readPadding (ended : Bool) (bs : Bytes) : Action :=
  let bs := bs.dropWhile isPadding
  if bs.length < 2 then .short ended .padding bs
  else if bs.take 2 = crlf then readHeaders ended (bs.drop 2)
  else .stop (.failed .incompleteStream)

/-- Reads what follows a boundary. -/
def readKind (ended : Bool) (bs : Bytes) : Action :=
  if bs.length < 2 then .short ended .kind bs
  else if bs.take 2 = hyphens then .stop .closed
  else readPadding ended bs

/-- Reads a boundary. -/
def readBoundary (boundary : Bytes) (ended : Bool) (bs : Bytes) : Action :=
  let mark := hyphens ++ boundary
  if bs.length < mark.length then .short ended .boundary bs
  else if bs.take mark.length = mark then readKind ended (bs.drop mark.length)
  else .stop (.failed .incompleteStream)

/-- The number of bytes of `bs` that cannot belong to a mark that is still
arriving: those before the last carriage return, if the mark begins as `bs` goes on
from there, and all bytes otherwise. -/
def safeLength (mark bs : Bytes) : Nat :=
  match bs.reverse.findIdx? (· == 0x0D) with
  | some i =>
    let n := bs.length - (i + 1)
    if (bs.drop n).isPrefixOf mark then n else bs.length
  | none => bs.length

/-- Reads the data of a part. -/
def readData (boundary : Bytes) (name? : Option String) (ended : Bool) (bs : Bytes) : Action :=
  let mark := crlf ++ hyphens ++ boundary
  if bs.isEmpty then
    if ended then .stop (.failed (.incompleteField name?)) else .wait (.data name?) []
  else
    match splitAt? mark bs with
    | some (before, rest) => .tell [.data before, .partEnd] .boundary (rest.drop 2)
    | none =>
      if ended then .stop (.failed (.incompleteField name?))
      else
        let n := safeLength mark bs
        if n = 0 then .wait (.data name?) bs
        else .tell [.data (bs.take n)] (.data name?) (bs.drop n)

/-- What can be done at a stage other than the preamble. -/
def act (boundary : Bytes) (ended : Bool) : Stage → Bytes → Action
  | .preamble, bs => .wait .preamble bs
  | .boundary, bs => readBoundary boundary ended bs
  | .kind, bs => readKind ended bs
  | .padding, bs => readPadding ended bs
  | .headers, bs => readHeaders ended bs
  | .data name?, bs => readData boundary name? ended bs

/-! ## Arrival of bytes -/

/-- What has arrived and what is to come. -/
structure Intake where
  buffer : Bytes
  batches : List (List BodyItem)
  size : Nat
  pulled : Nat

/-- The batches in which a stream arrives. -/
def arrivals (stream : BodyStream) : List (List BodyItem) :=
  if stream.paced && !stream.items.isEmpty then [] :: stream.items.map fun i => [i]
  else [stream.items]

namespace Intake

def start (stream : BodyStream) : Intake := ⟨[], arrivals stream, 0, 0⟩

/-- Nothing is to come. -/
def ended (s : Intake) : Bool :=
  s.batches.isEmpty

/-- Takes items; the stream may hold `limit` bytes. -/
def takeItems (limit : UInt64) (s : Intake) : List BodyItem → Intake × Option MultipartError
  | [] => (s, none)
  | .failure _ :: _ => ({ s with pulled := s.pulled + 1 }, some .unreadableStream)
  | .chunk b :: rest =>
    let s := { s with pulled := s.pulled + 1, size := s.size + b.length }
    if limit.toNat < s.size then (s, some (.streamTooLarge limit))
    else takeItems limit { s with buffer := s.buffer ++ b } rest

/-- Takes the next batch. -/
def fill (limit : UInt64) (s : Intake) : Intake × Option MultipartError :=
  match s.batches with
  | [] => (s, none)
  | batch :: rest => takeItems limit { s with batches := rest } batch

end Intake

/-- Looks for the first boundary. Without one a second batch is taken, and a
stream that ends with it is incomplete. -/
def seekBoundary (limit : UInt64) (boundary : Bytes) (s : Intake) : Intake × Action :=
  match splitAt? (hyphens ++ boundary) s.buffer with
  | some (_, rest) => (s, readBoundary boundary s.ended rest)
  | none =>
    match s.fill limit with
    | (s, some e) => (s, .stop (.failed e))
    | (s, none) => (s, .short s.ended .preamble s.buffer)

/-- Takes a batch and does what can be done. -/
def poll (limit : UInt64) (boundary : Bytes) (stage : Stage) (s : Intake) : Intake × Action :=
  match s.fill limit with
  | (s, some e) => (s, .stop (.failed e))
  | (s, none) =>
    match stage with
    | .preamble => seekBoundary limit boundary s
    | stage => (s, act boundary s.ended stage s.buffer)

/-- The events of what has arrived and is to come, in at most `fuel` steps, each
with the number of stream items taken by then. -/
def eventsFrom (limit : UInt64) (boundary : Bytes) :
    Nat → Stage → Intake → List (PartEvent × Nat)
  | 0, _, s => [(.failed .incompleteStream, s.pulled)]
  | fuel + 1, stage, s =>
    match poll limit boundary stage s with
    | (s, .stop event) => [(event, s.pulled)]
    | (s, .wait stage rest) => eventsFrom limit boundary fuel stage { s with buffer := rest }
    | (s, .tell events stage rest) =>
      events.map (·, s.pulled) ++ eventsFrom limit boundary fuel stage { s with buffer := rest }

/-- The bytes of an item. -/
def itemBytes : BodyItem → Bytes
  | .chunk b => b
  | .failure _ => []

/-- Steps enough for a stream: each takes a batch or leaves fewer bytes. -/
def steps (stream : BodyStream) : Nat :=
  (arrivals stream).length + (stream.items.flatMap itemBytes).length + 1

/-- The events of a stream, each with the number of items taken by then. -/
def events (limit : UInt64) (boundary : Bytes) (stream : BodyStream) : List (PartEvent × Nat) :=
  eventsFrom limit boundary (steps stream) .preamble (.start stream)

end Multipart

end RequestBinding
