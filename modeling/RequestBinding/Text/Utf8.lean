/-!
# UTF-8

Text is written in UTF-8 and read back from bytes in two ways:

* `decode` refuses bytes that are not well formed and says where: at the first
  byte of the first sequence that cannot be completed, or that the input ends
  inside of;
* `decodeLossy` puts U+FFFD for every maximal part of such a sequence and goes
  on after it.

Both read one sequence at a time through `front?`, which follows the table of
well-formed sequences: a first byte fixes how many bytes it owes and the range
of the first of them; all others lie in 80 to BF.

Results:
1. `front?_length`: what `front?` leaves is shorter than what it was given.
-/

namespace RequestBinding

/-- A string of bytes. -/
abbrev Bytes := List UInt8

/-- The length of `s` in bytes, the unit of every limit on text. -/
def byteLength (s : String) : Nat :=
  s.utf8ByteSize

namespace Utf8

/-! ## Writing -/

/-- The bytes of `s`. -/
def encode (s : String) : Bytes :=
  s.toList.flatMap String.utf8EncodeChar

/-! ## One sequence -/

/-- What a first byte above 7F announces: the number of bytes it owes, the
range of the first of them, and its own part of the code point. -/
structure Lead where
  owed : Nat
  low : UInt8
  high : UInt8
  bits : Nat
deriving DecidableEq

/-- The table of first bytes above 7F. -/
def lead? (b : UInt8) : Option Lead :=
  if 0xC2 ≤ b && b ≤ 0xDF then some ⟨1, 0x80, 0xBF, b.toNat - 0xC0⟩
  else if b == 0xE0 then some ⟨2, 0xA0, 0xBF, 0⟩
  else if 0xE1 ≤ b && b ≤ 0xEC then some ⟨2, 0x80, 0xBF, b.toNat - 0xE0⟩
  else if b == 0xED then some ⟨2, 0x80, 0x9F, 0xD⟩
  else if 0xEE ≤ b && b ≤ 0xEF then some ⟨2, 0x80, 0xBF, b.toNat - 0xE0⟩
  else if b == 0xF0 then some ⟨3, 0x90, 0xBF, 0⟩
  else if 0xF1 ≤ b && b ≤ 0xF3 then some ⟨3, 0x80, 0xBF, b.toNat - 0xF0⟩
  else if b == 0xF4 then some ⟨3, 0x80, 0x8F, 4⟩
  else none

/-- The outcome of reading one sequence. -/
inductive Front where
  /-- A whole sequence: its character. -/
  | scalar (c : Char)
  /-- The first `width` bytes begin a sequence, and the next byte breaks it. -/
  | broken (width : Nat)
  /-- The input ends inside a sequence that could still be completed. -/
  | cut
deriving DecidableEq

/-- The code point gathered in `acc` takes six more bits from `b`. -/
def gather (acc : Nat) (b : UInt8) : Nat :=
  acc * 64 + (b.toNat - 0x80)

/-- Reads the bytes owed after a first byte: `width` bytes have been read, `n`
are owed, and the next one lies in `low` to `high`. -/
def tails (n : Nat) (low high : UInt8) (width acc : Nat) : Bytes → Front × Bytes
  | [] => if n = 0 then (.scalar (Char.ofNat acc), []) else (.cut, [])
  | b :: rest =>
    match n with
    | 0 => (.scalar (Char.ofNat acc), b :: rest)
    | n + 1 =>
      if low ≤ b && b ≤ high then tails n 0x80 0xBF (width + 1) (gather acc b) rest
      else (.broken width, b :: rest)

/-- The first sequence of a byte string, and the bytes after it. -/
def front? : Bytes → Option (Front × Bytes)
  | [] => none
  | b :: rest =>
    if b < 0x80 then some (.scalar (Char.ofNat b.toNat), rest)
    else
      match lead? b with
      | some l => some (tails l.owed l.low l.high 1 l.bits rest)
      | none => some (.broken 1, rest)

theorem tails_length (n : Nat) (low high : UInt8) (width acc : Nat) (bs : Bytes) :
    (tails n low high width acc bs).2.length ≤ bs.length := by
  induction bs generalizing n low high width acc with
  | nil => simp only [tails]; split <;> simp
  | cons b rest ih =>
    match n with
    | 0 => simp [tails]
    | n + 1 =>
      simp only [tails]
      split
      · exact Nat.le_succ_of_le (ih _ _ _ _ _)
      · simp

theorem front?_length {bs rest : Bytes} {f : Front} (h : front? bs = some (f, rest)) :
    rest.length < bs.length := by
  match bs with
  | [] => simp [front?] at h
  | b :: bs =>
    simp only [front?] at h
    split at h
    · simp only [Option.some.injEq, Prod.mk.injEq] at h
      simp [← h.2]
    · split at h
      · next l _ =>
        have := tails_length l.owed l.low l.high 1 l.bits bs
        simp only [Option.some.injEq] at h
        rw [h] at this
        exact Nat.lt_succ_of_le this
      · simp only [Option.some.injEq, Prod.mk.injEq] at h
        simp [← h.2]

/-! ## Reading a whole byte string -/

/-- Why bytes are not UTF-8. `width` is the number of bytes of the longest
beginning of a sequence at `index`; without one the input ends there. -/
structure DecodeError where
  width : Option Nat
  index : Nat
deriving DecidableEq

/-- The text of the error. -/
def DecodeError.message (e : DecodeError) : String :=
  match e.width with
  | some w => "invalid utf-8 sequence of " ++ toString w ++ " bytes from index " ++ toString e.index
  | none => "incomplete utf-8 byte sequence from index " ++ toString e.index

/-- Reads `bs`, which begins at `index`, into characters. -/
def decodeFrom (index : Nat) (bs : Bytes) : Except DecodeError (List Char) :=
  match h : front? bs with
  | none => .ok []
  | some (.scalar c, rest) =>
    have : rest.length < bs.length := front?_length h
    match decodeFrom (index + c.utf8Size) rest with
    | .ok cs => .ok (c :: cs)
    | .error e => .error e
  | some (.broken w, _) => .error ⟨some w, index⟩
  | some (.cut, _) => .error ⟨none, index⟩
termination_by bs.length

/-- The text that `bs` writes, if `bs` is well formed. -/
def decode (bs : Bytes) : Except DecodeError String :=
  match decodeFrom 0 bs with
  | .ok cs => .ok (String.ofList cs)
  | .error e => .error e

/-- What stands for bytes that write no character. -/
def replacement : Char :=
  '\uFFFD'

/-- The characters of `bs`, with one replacement for every maximal part of a
sequence that is not well formed. -/
def decodeLossyChars (bs : Bytes) : List Char :=
  match h : front? bs with
  | none => []
  | some (f, rest) =>
    have : rest.length < bs.length := front?_length h
    (match f with
      | .scalar c => c
      | _ => replacement) :: decodeLossyChars rest
termination_by bs.length

/-- The text of `bs`, with one replacement for every maximal part of a
sequence that is not well formed. -/
def decodeLossy (bs : Bytes) : String :=
  String.ofList (decodeLossyChars bs)

end Utf8

end RequestBinding
