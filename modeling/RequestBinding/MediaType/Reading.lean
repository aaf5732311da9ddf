import RequestBinding.MediaType.Basic

/-!
# Reading a media type

The text is scanned once, byte by byte, with the places of its parts noted as
ranges; the parts are cut out afterwards. `Stage` says what the next byte
belongs to, `Stage.step` what that byte makes of it, and `Stage.finish` whether
the text may end there.
-/

namespace RequestBinding.MediaType

/-- The bytes from `first` up to but not including `last`. -/
structure Range where
  first : Nat
  last : Nat
deriving DecidableEq

/-- The bytes of a range. -/
def Range.of (r : Range) (bs : Array UInt8) : Bytes :=
  (bs.extract r.first r.last).toList

/-- What the next byte belongs to. -/
inductive Stage where
  /-- The type. -/
  | type
  /-- The subtype, which began at `start`; `plus?` is the last plus sign in it. -/
  | subtype (start : Nat) (plus? : Option Nat)
  /-- The name of a parameter, or the spaces before it. -/
  | name (start : Nat)
  /-- The value of a parameter. -/
  | value (name : Range) (start : Nat)
  /-- A value between quotes. -/
  | quotedValue (name : Range) (start : Nat)
  /-- What follows the quote that ends a value. -/
  | closed

/-- What has been found in the text so far. -/
structure Scan where
  stage : Stage
  slash : Nat
  plus? : Option Nat
  semicolon? : Option Nat
  /-- The names and values of the parameters, the last one first. -/
  params : List (Range × Range)

def Scan.start : Scan := ⟨.type, 0, none, none, []⟩

/-- `b` may stand between quotes. -/
def isQuotedByte (b : UInt8) : Bool :=
  31 < b && b != 127

/-- Takes the byte `b` at position `i`. -/
def Scan.step (s : Scan) (i : Nat) (b : UInt8) : Except MediaTypeError Scan :=
  match s.stage with
  | .type =>
    if isTokenByte b then .ok s
    else if b == 0x2F && 0 < i then .ok { s with stage := .subtype (i + 1) none, slash := i }
    else .error (.invalidToken b i)
  | .subtype start plus? =>
    if b == 0x2B && start < i then .ok { s with stage := .subtype start (some i) }
    else if b == 0x3B && start < i then
      .ok { s with stage := .name (i + 1), plus? := plus?, semicolon? := some i }
    else if isTokenByte b then .ok s
    else .error (.invalidToken b i)
  | .name start =>
    if b == 0x20 && i == start then .ok { s with stage := .name (i + 1) }
    else if isTokenByte b then .ok s
    else if b == 0x3D && start < i then .ok { s with stage := .value ⟨start, i⟩ (i + 1) }
    else .error (.invalidToken b i)
  | .value name start =>
    if b == 0x22 && i == start then .ok { s with stage := .quotedValue name (i + 1) }
    else if isTokenByte b then .ok s
    else if b == 0x3B && start < i then
      .ok { s with stage := .name (i + 1), params := (name, ⟨start, i⟩) :: s.params }
    else .error (.invalidToken b i)
  | .quotedValue name start =>
    if b == 0x22 && start < i then
      .ok { s with stage := .closed, params := (name, ⟨start, i⟩) :: s.params }
    else if isQuotedByte b then .ok s
    else .error (.invalidToken b i)
  | .closed =>
    if b == 0x3B then .ok { s with stage := .name (i + 1) }
    else if b == 0x20 then .ok s
    else .error (.invalidToken b i)

/-- Ends the text, which has `n` bytes. -/
def Scan.finish (s : Scan) (n : Nat) : Except MediaTypeError Scan :=
  match s.stage with
  | .type => .error .missingSlash
  | .subtype _ plus? => .ok { s with plus? := plus? }
  | .name start => if start < n then .error .missingEqual else .ok s
  | .value name start => .ok { s with params := (name, ⟨start, n⟩) :: s.params }
  | .quotedValue _ _ => .error .missingQuote
  | .closed => .ok s

/-- Scans bytes that begin at position `i`. -/
def Scan.run (s : Scan) (i : Nat) : Bytes → Except MediaTypeError Scan
  | [] => s.finish i
  | b :: rest =>
    match s.step i b with
    | .ok s => s.run (i + 1) rest
    | .error e => .error e

/-- Small letters in a range of bytes. -/
def lowerRange (bs : Array UInt8) (r : Range) : Array UInt8 :=
  (List.range' r.first (r.last - r.first)).foldl (fun bs i => bs.modify i lowerByte) bs

/-- The bytes of `charset` and of `utf-8`. -/
def charsetBytes : Bytes := Utf8.encode "charset"

@[inherit_doc charsetBytes]
def utf8Bytes : Bytes := Utf8.encode "utf-8"

/-- The declaration of UTF-8 directly after one space is the common case. It is
noted by its place alone, as if it had no quotes: its value is the five bytes
after the equals sign when other parameters follow, and `utf-8` otherwise. -/
def declaresUtf8 (bs : Array UInt8) (semicolon : Nat) (param : Range × Range) : Bool :=
  semicolon + 2 == param.1.first && (param.1.of bs).map lowerByte == charsetBytes &&
    (param.2.of bs).map lowerByte == utf8Bytes

/-- The ranges of the parameters as they are kept. -/
def keptParams (bs : Array UInt8) (semicolon : Nat) : List (Range × Range) → List (Range × Range)
  | p :: q :: rest =>
    if declaresUtf8 bs semicolon p then (p.1, ⟨p.1.last + 1, p.1.last + 6⟩) :: q :: rest
    else p :: q :: rest
  | params => params

/-- Small letters for a parameter's name, and for its value if it is a charset. -/
def lowerParam (bs : Array UInt8) (param : Range × Range) : Array UInt8 :=
  let bs := lowerRange bs param.1
  if param.1.of bs == charsetBytes then lowerRange bs param.2 else bs

/-- Cuts the parts out of a scanned text. -/
def ofScan (bs : Array UInt8) (s : Scan) : MediaType :=
  let semicolon := s.semicolon?.getD bs.size
  let head := lowerRange bs ⟨0, semicolon⟩
  let params := keptParams bs semicolon s.params.reverse
  let shown := if params.isEmpty then head.extract 0 semicolon else params.foldl lowerParam head
  let text (r : Range) : String := Utf8.decodeLossy (r.of shown)
  { type := text ⟨0, s.slash⟩
    subtype := text ⟨s.slash + 1, s.plus?.getD semicolon⟩
    suffix? := s.plus?.map fun p => text ⟨p + 1, semicolon⟩
    params := params.map fun p => (text p.1, text p.2)
    text := Utf8.decodeLossy shown.toList }

/-- The media type that `s` writes. -/
def read (s : String) : Except MediaTypeError MediaType :=
  let bs := Utf8.encode s
  match Scan.start.run 0 bs with
  | .ok scan => .ok (ofScan bs.toArray scan)
  | .error e => .error e

/-- The media type that `s` writes, if it writes one. -/
def read? (s : String) : Option MediaType :=
  (read s).toOption

end RequestBinding.MediaType
