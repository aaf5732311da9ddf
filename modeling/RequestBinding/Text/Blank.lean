/-!
# Blank characters and trimming

A character is blank when it has the Unicode property White_Space. Text is
trimmed by dropping the blanks at its two ends.
-/

namespace RequestBinding

/-! ## The property -/

/-- The code points with the property White_Space, in order, as closed ranges. -/
def blankRanges : List (Nat × Nat) :=
  [(0x09, 0x0D), (0x20, 0x20), (0x85, 0x85), (0xA0, 0xA0), (0x1680, 0x1680), (0x2000, 0x200A),
   (0x2028, 0x2029), (0x202F, 0x202F), (0x205F, 0x205F), (0x3000, 0x3000)]

/-- `c` has the property White_Space. -/
def isBlank (c : Char) : Bool :=
  blankRanges.any fun r => r.1 ≤ c.toNat && c.toNat ≤ r.2

/-! ## Trimming -/

/-- `l` without the blanks at its end. -/
def dropTrailingBlanks (l : List Char) : List Char :=
  (l.reverse.dropWhile isBlank).reverse

/-- `s` without the blanks at its two ends. -/
def trim (s : String) : String :=
  String.ofList (dropTrailingBlanks (s.toList.dropWhile isBlank))

end RequestBinding
