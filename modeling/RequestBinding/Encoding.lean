import RequestBinding.Text.Blank
import RequestBinding.Text.Case
import RequestBinding.Text.Utf8
import RequestBinding.Numeric.Integer

/-!
# Text encodings

The encodings that a body of text may declare, under their labels and the
common other names for them. UTF-8 accepts well-formed bytes, US-ASCII bytes
below 80, and ISO-8859-1 all bytes; the last two give every byte the character
of that code point.

Results:
1. `decode_latin1_isOk`: ISO-8859-1 accepts every byte string.
2. `decode_usAscii_isOk`: US-ASCII accepts exactly the bytes below 80.
-/

namespace RequestBinding

/-- A text encoding. -/
inductive Encoding where
  | utf8
  | usAscii
  | latin1
deriving DecidableEq

/-- Why a body is not text in an encoding. -/
inductive DecodeFailure where
  | utf8 (error : Utf8.DecodeError)
  | usAscii
deriving DecidableEq

/-- The text of the failure. -/
def DecodeFailure.message : DecodeFailure → String
  | .utf8 _ => "The request body is not valid UTF-8."
  | .usAscii => "The request body is not valid US-ASCII."

namespace Encoding

/-- The label of an encoding. -/
def label : Encoding → String
  | utf8 => "utf-8"
  | usAscii => "us-ascii"
  | latin1 => "iso-8859-1"

/-- The name of an encoding as it is shown to a developer. -/
def describe : Encoding → String
  | utf8 => "Utf8"
  | usAscii => "UsAscii"
  | latin1 => "Latin1"

/-- The encoding of a label, in any letter case and with blanks around it. -/
def ofLabel? (label : String) : Option Encoding :=
  let name := asciiLower (trim label)
  if name == "utf-8" || name == "utf8" then some utf8
  else if name == "us-ascii" || name == "ascii" then some usAscii
  else if name == "iso-8859-1" || name == "latin1" || name == "latin-1" then some latin1
  else none

/-- The character whose code point is a byte. -/
def byteChar (b : UInt8) : Char :=
  Char.ofNat b.toNat

/-- The text that `bs` writes in an encoding. -/
def decode : Encoding → Bytes → Except DecodeFailure String
  | utf8, bs =>
    match Utf8.decode bs with
    | .ok s => .ok s
    | .error e => .error (.utf8 e)
  | usAscii, bs =>
    if bs.all (· < 0x80) then .ok (String.ofList (bs.map byteChar)) else .error .usAscii
  | latin1, bs => .ok (String.ofList (bs.map byteChar))

theorem decode_latin1_isOk (bs : Bytes) :
    decode latin1 bs = .ok (String.ofList (bs.map byteChar)) := rfl

theorem decode_usAscii_isOk (bs : Bytes) :
    (∃ s, decode usAscii bs = .ok s) ↔ ∀ b ∈ bs, b < 0x80 := by
  simp only [decode, List.all_eq_true, decide_eq_true_eq]
  split <;> simp_all

end Encoding

end RequestBinding
