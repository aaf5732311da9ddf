import RequestBinding.Formatter.Basic

/-!
# Ready-made readers

A reader makes a model of text. These are the readers of text, of a number, and
those that always give the same answer.
-/

namespace RequestBinding

/-- Makes a model of text. -/
abbrev TextReader := String → Except ReadError ReadResult

namespace TextReader

/-- The model that is some text. -/
def ofText (s : String) : ReadResult :=
  .success (some ⟨.text, s⟩)

/-- Gives the text as it is. -/
def echo : TextReader := fun s => .ok (ofText s)

/-- Reads an unsigned number of 32 bits. -/
def number : TextReader := fun s =>
  match readUnsigned maxUInt32 s with
  | .ok n => .ok (.success (some ⟨.number, UInt32.ofNat n⟩))
  | .error e => .error (.format ⟨"The value is not a number.", some (.integer e)⟩)

/-- Always gives the same result. -/
def always (r : ReadResult) : TextReader := fun _ => .ok r

/-- Always fails. -/
def fails (e : ReadError) : TextReader := fun _ => .error e

end TextReader

end RequestBinding
