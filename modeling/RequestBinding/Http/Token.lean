import RequestBinding.Text.Utf8

/-!
# Tokens and visible text

Names in a message head (methods, header names, the parts of a media type) are
tokens: ASCII letters, digits and fifteen other marks. Header values are bytes;
they are read as text only if they are visible ASCII, blanks included.
-/

namespace RequestBinding

/-- The marks that a token may hold besides letters and digits. -/
def tokenMarks : Bytes :=
  "!#$%&'*+-.^_\u0060|~".toList.map fun c => UInt8.ofNat c.toNat

/-- `b` may stand in a token. -/
def isTokenByte (b : UInt8) : Bool :=
  (0x30 ≤ b && b ≤ 0x39) || (0x41 ≤ b && b ≤ 0x5A) || (0x61 ≤ b && b ≤ 0x7A) ||
    tokenMarks.contains b

/-- `s` is a token. -/
def isToken (s : String) : Bool :=
  !s.isEmpty && (Utf8.encode s).all isTokenByte

/-- `b` with a capital letter of ASCII made small. -/
def lowerByte (b : UInt8) : UInt8 :=
  if 0x41 ≤ b && b ≤ 0x5A then b + 0x20 else b

/-- `b` is visible ASCII, a space or a tab. -/
def isVisibleByte (b : UInt8) : Bool :=
  (0x20 ≤ b && b ≤ 0x7E) || b == 0x09

/-- The text of a header value, if it is visible ASCII. -/
def visibleText? (value : Bytes) : Option String :=
  if value.all isVisibleByte then some (String.ofList (value.map fun b => Char.ofNat b.toNat))
  else none

end RequestBinding
