import RequestBinding.Form.Collection
import RequestBinding.Form.Error
import RequestBinding.Form.Options
import RequestBinding.Numeric.Integer
import RequestBinding.Text.Quoted

/-!
# Url-encoded forms

A url-encoded body is a row of pairs between ampersands; empty segments are
skipped. A pair is split at its first equals sign. In each part a plus sign is
a space and an escape `%XX` a byte; an escape that is not one stays as it is.
The bytes are read as UTF-8 with replacements, so that decoding never fails.

The whole body at once is `pairs`. A stream is read chunk by chunk: the bytes
after the last ampersand are pending, every segment is decoded and checked as
soon as it is complete, and the pending segment is refused early when it has
grown beyond three times a limit, because decoding takes away at most two of
three bytes.

Memory for what is pending is reserved before the first chunk is pulled: as many
bytes as are declared, up to the threshold of the options, whether or not the
body is buffered. A reservation that is not granted ends the read in a crash, with
the stream taken.

Results:
1. `read_of_declaredTooLarge`, `read_eq_deliver`: a body is refused by its declared
   length, or left to the reader.
2. `percentDecode_length`: decoding escapes takes away at most two bytes of
   three.
-/

namespace RequestBinding

namespace UrlEncoded

/-! ## Decoding -/

/-- The value of a byte that is a hexadecimal digit. -/
def hexByte? (b : UInt8) : Option Nat :=
  hexValue? (Char.ofNat b.toNat)

/-- Decodes the escapes of a byte string. -/
def percentDecode (bs : Bytes) : Bytes :=
  match bs with
  | [] => []
  | b :: rest =>
    if b = 0x25 then
      match rest with
      | h :: l :: rest' =>
        match hexByte? h, hexByte? l with
        | some x, some y => UInt8.ofNat (16 * x + y) :: percentDecode rest'
        | _, _ => b :: percentDecode (h :: l :: rest')
      | rest => b :: percentDecode rest
    else b :: percentDecode rest
termination_by bs.length

/-- A plus sign stands for a space. -/
def plusToSpace (b : UInt8) : UInt8 :=
  if b = 0x2B then 0x20 else b

/-- The text of a key or a value. -/
def decodePart (bs : Bytes) : String :=
  Utf8.decodeLossy (percentDecode (bs.map plusToSpace))

/-- The bytes of a segment before its first equals sign, and those after it. -/
def splitPair (segment : Bytes) : Bytes × Bytes :=
  (segment.takeWhile (· != 0x3D), (segment.dropWhile (· != 0x3D)).drop 1)

/-- The key and the value of a segment. -/
def pair (segment : Bytes) : String × String :=
  let (key, value) := splitPair segment
  (decodePart key, decodePart value)

/-! ## The whole body -/

/-- The segments between ampersands. -/
def segments (bs : Bytes) : List Bytes :=
  bs.splitOn 0x26

/-- The pairs of a body. -/
def pairs (bs : Bytes) : List (String × String) :=
  ((segments bs).filter (!·.isEmpty)).map pair

/-! ## Checks -/

/-- A pair is within the limits, as the `count`-th of its form. -/
def checkPair (o : FormOptions) (count : Nat) (p : String × String) : Except FormError Unit :=
  if o.valueCountLimit.toNat < count then .error (.tooManyValues o.valueCountLimit)
  else if o.keyLengthLimit.toNat < byteLength p.1 then .error (.keyTooLong o.keyLengthLimit)
  else if o.valueLengthLimit.toNat < byteLength p.2 then .error (.valueTooLong o.valueLengthLimit)
  else .ok ()

/-- The most bytes of an encoded part that can decode to within a limit. -/
def encodedLimit (limit : UInt64) : Nat :=
  saturate (3 * limit.toNat)

/-- A segment that is not complete can still be within the limits. -/
def checkPending (o : FormOptions) (pending : Bytes) : Except FormError Unit :=
  let (key, value) := splitPair pending
  if encodedLimit o.keyLengthLimit < key.length then .error (.keyTooLong o.keyLengthLimit)
  else if encodedLimit o.valueLengthLimit < value.length then
    .error (.valueTooLong o.valueLengthLimit)
  else .ok ()

/-! ## Reading chunk by chunk -/

/-- The state between chunks: the bytes after the last ampersand, the number of
pairs so far, and their form. -/
structure Reader where
  pending : Bytes
  count : Nat
  form : Form
deriving DecidableEq

namespace Reader

def start : Reader := ⟨[], 0, .empty⟩

/-- Completes the pending segment. -/
def flush (o : FormOptions) (r : Reader) : Except FormError Reader :=
  if r.pending.isEmpty then .ok r
  else
    let p := pair r.pending
    match checkPair o (r.count + 1) p with
    | .ok () => .ok ⟨[], r.count + 1, r.form.pushValue p.1 p.2⟩
    | .error e => .error e

/-- Takes a chunk. -/
def push (o : FormOptions) (r : Reader) (chunk : Bytes) : Except FormError Reader :=
  let r := { r with pending := r.pending ++ chunk.takeWhile (· != 0x26) }
  match h : chunk.dropWhile (· != 0x26) with
  | [] =>
    match checkPending o r.pending with
    | .ok () => .ok r
    | .error e => .error e
  | _ :: rest =>
    have : rest.length < chunk.length := by
      have := (List.dropWhile_sublist (l := chunk) (· != 0x26)).length_le
      rw [h, List.length_cons] at this
      omega
    match r.flush o with
    | .ok r => push o r rest
    | .error e => .error e
termination_by chunk.length

/-- Ends the body. -/
def finish (o : FormOptions) (r : Reader) : Except FormError Form :=
  match r.flush o with
  | .ok r => .ok r.form
  | .error e => .error e

end Reader

/-- The state of a read: the reader, and the number of bytes so far. -/
structure Progress where
  reader : Reader
  total : Nat
deriving DecidableEq

/-- Takes a chunk: a buffered body may not grow beyond its limit. -/
def Progress.step (o : FormOptions) (p : Progress) (chunk : Bytes) : Except FormError Progress :=
  let total := saturate (p.total + chunk.length)
  if o.bufferBody && o.bufferBodyLengthLimit.toNat < total then
    .error (.bodyTooLarge o.bufferBodyLengthLimit)
  else
    match p.reader.push o chunk with
    | .ok r => .ok ⟨r, total⟩
    | .error e => .error e

/-- Reads the form of a stream. -/
def readStream (o : FormOptions) (stream : BodyStream) : Except FormError Form × Nat :=
  match feedItems (Progress.step o) FormError.io ⟨.start, 0⟩ 0 stream.items with
  | (.ok p, pulled) => (p.reader.finish o, pulled)
  | (.error e, pulled) => (.error e, pulled)

/-! ## Memory -/

/-- The largest block of memory that may be asked for. -/
def maxBlock : Nat := 0x7FFFFFFFFFFFFFFF

/-- Reserves memory in a process that is given blocks of up to `memory` bytes. -/
def reserve (memory bytes : Nat) : Except Crash Unit :=
  if maxBlock < bytes then .error .capacityOverflow
  else if memory < bytes then .error (.outOfMemory bytes)
  else .ok ()

/-- The bytes that are reserved for a body: as many as are declared, up to the
threshold. -/
def reserved (o : FormOptions) (declared? : Option UInt64) : Nat :=
  min (declared?.getD 0).toNat o.memoryBufferThreshold.toNat

/-- Reserves memory and reads the form of a stream. -/
def reserveAndRead (memory : Nat) (o : FormOptions) (declared? : Option UInt64)
    (stream : BodyStream) : Except FormError Form × Nat :=
  match reserve memory (reserved o declared?) with
  | .ok () => readStream o stream
  | .error c => (.error (.crash c), 0)

/-! ## A body -/

/-- Reads the form of a body whose declared length is known, in a process that is
given blocks of up to `memory` bytes. A buffered body that is declared too large is
not touched. -/
def read (o : FormOptions) (declared? : Option UInt64) (body : Body)
    (memory : Nat := maxBlock) : Except FormError Form × Body :=
  if o.bufferBody && o.bufferBodyLengthLimit < declared?.getD 0 then
    (.error (.bodyTooLarge o.bufferBodyLengthLimit), body)
  else body.deliver (reserveAndRead memory o declared?) (.error (.io bodyConsumed))

section

variable {o : FormOptions} {declared? : Option UInt64}

theorem lt_getD_iff {limit : UInt64} :
    limit < declared?.getD 0 ↔ ∃ n, declared? = some n ∧ limit < n := by
  cases declared? with
  | none =>
    refine iff_of_false (UInt64.not_lt.2 UInt64.zero_le) ?_
    rintro ⟨_, ⟨⟩, _⟩
  | some n =>
    refine ⟨fun h => ⟨n, rfl, h⟩, ?_⟩
    rintro ⟨_, ⟨⟩, h⟩
    exact h

theorem read_of_declaredTooLarge {n : UInt64} (hbuffer : o.bufferBody = true)
    (hn : declared? = some n) (hlarge : o.bufferBodyLengthLimit < n) (body : Body)
    (memory : Nat) :
    read o declared? body memory = (.error (.bodyTooLarge o.bufferBodyLengthLimit), body) := by
  have hdeclared : o.bufferBodyLengthLimit < declared?.getD 0 := lt_getD_iff.2 ⟨n, hn, hlarge⟩
  rw [read, hbuffer, Bool.true_and, if_pos (decide_eq_true hdeclared)]

theorem read_eq_deliver
    (h : o.bufferBody = true → ∀ n, declared? = some n → n ≤ o.bufferBodyLengthLimit)
    (body : Body) (memory : Nat) :
    read o declared? body memory =
      body.deliver (reserveAndRead memory o declared?) (.error (.io bodyConsumed)) := by
  rw [read, if_neg]
  rw [Bool.and_eq_true, decide_eq_true_eq, lt_getD_iff]
  rintro ⟨hbuffer, n, hn, hlarge⟩
  exact UInt64.not_lt.2 (h hbuffer n hn) hlarge

end

/-! ## Lengths -/

theorem percentDecode_length (bs : Bytes) : bs.length ≤ 3 * (percentDecode bs).length := by
  fun_induction percentDecode bs with
  | case1 => simp
  | case2 => simp only [List.length_cons] at *; omega
  | case3 => simp only [List.length_cons] at *; omega
  | case4 => simp only [List.length_cons] at *; omega
  | case5 => simp only [List.length_cons] at *; omega

end UrlEncoded

end RequestBinding
