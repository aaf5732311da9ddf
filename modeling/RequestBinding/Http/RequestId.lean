import RequestBinding.Text.Quoted

/-!
# Request identifiers

An identifier is a number of 128 bits. It is written with 32 hexadecimal digits
in five groups joined by hyphens, and read in that form, without the hyphens,
between braces or after `urn:uuid:`, with letters of either case.
-/

namespace RequestBinding

/-- A request identifier: the values of its 32 digits. -/
structure RequestId where
  digits : List Nat
deriving DecidableEq

namespace RequestId

/-- The lengths of the groups of digits. -/
def groups : List Nat := [8, 4, 4, 4, 12]

/-- `l` cut into groups of the given lengths. -/
def cut {α : Type} (l : List α) : List Nat → List (List α)
  | [] => []
  | n :: ns => l.take n :: cut (l.drop n) ns

/-- The identifier in groups joined by hyphens. -/
def text (id : RequestId) : String :=
  "-".intercalate ((cut id.digits groups).map fun g => String.ofList (g.map hexDigit))

/-- The identifier of 32 digits. -/
def ofDigits? (l : List Char) : Option RequestId :=
  if l.length = 32 then
    match l.mapM hexValue? with
    | some digits => some ⟨digits⟩
    | none => none
  else none

/-- The digits between the hyphens of an identifier of 36 characters. -/
def ofHyphenated? (l : List Char) : Option RequestId :=
  if l.length = 36 && [8, 13, 18, 23].all (fun i => l[i]? == some '-') then
    ofDigits?
      (l.take 8 ++ (l.drop 9).take 4 ++ (l.drop 14).take 4 ++ (l.drop 19).take 4 ++ l.drop 24)
  else none

/-- The marker of the longest form. -/
def urn : List Char := "urn:uuid:".toList

/-- The identifier that `s` writes. -/
def read? (s : String) : Option RequestId :=
  let l := s.toList
  if l.length = 32 then ofDigits? l
  else if l.length = 36 then ofHyphenated? l
  else if l.length = 38 && l.head? == some '\x7B' && l.getLast? == some '\x7D' then
    ofHyphenated? (l.drop 1).dropLast
  else if (l.take urn.length).map Char.toLower == urn then ofHyphenated? (l.drop urn.length)
  else none

end RequestId

end RequestBinding
