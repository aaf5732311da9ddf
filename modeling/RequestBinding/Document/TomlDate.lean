import RequestBinding.Numeric.Binary64

/-!
# Dates and times of TOML

A date has a year of four digits, a month and a day of two; a time has hours, minutes and
seconds of two digits, and may have a fraction of a second. A date may have a time behind it,
and then also the distance from the time of the world. No setting is a date, so that only what
is one matters.
-/

namespace RequestBinding

namespace TomlReader

/-- `c` is a decimal digit. -/
def isDecimal (c : Char) : Bool := (digitValue? c).isSome

/-- The number that `n` digits at the front write, if it lies in the range, and what follows
them. -/
def fixedDigits? (n low high : Nat) (l : List Char) : Option (Nat × List Char) :=
  let ds := l.take n
  let value := Binary64.digitsValue ds
  if ds.length = n ∧ ds.all isDecimal ∧ low ≤ value ∧ value ≤ high then some (value, l.drop n)
  else none

/-- What follows a mark at the front. -/
def afterMark? (mark : Char) : List Char → Option (List Char)
  | c :: rest => if c == mark then some rest else none
  | [] => none

/-- How many days a month has. -/
def monthDays (year month : Nat) : Nat :=
  if month == 2 then
    if year % 4 == 0 && (year % 100 != 0 || year % 400 == 0) then 29 else 28
  else if month == 4 || month == 6 || month == 9 || month == 11 then 30
  else 31

/-- What follows a date at the front. -/
def afterDate? (l : List Char) : Option (List Char) := do
  let (year, l) ← fixedDigits? 4 0 9999 l
  let l ← afterMark? '-' l
  let (month, l) ← fixedDigits? 2 1 12 l
  let l ← afterMark? '-' l
  let (_, l) ← fixedDigits? 2 1 (monthDays year month) l
  some l

/-- What follows a time of the day at the front. A minute may have a second more. -/
def afterTime? (l : List Char) : Option (List Char) := do
  let (_, l) ← fixedDigits? 2 0 23 l
  let l ← afterMark? ':' l
  let (_, l) ← fixedDigits? 2 0 59 l
  let l ← afterMark? ':' l
  let (_, l) ← fixedDigits? 2 0 60 l
  match l with
  | '.' :: c :: rest => if isDecimal c then some (rest.dropWhile isDecimal) else none
  | l => some l

/-- What follows the distance from the time of the world, which may be missing. -/
def afterOffset? (l : List Char) : Option (List Char) :=
  match l with
  | [] => some []
  | c :: rest =>
    if c == 'Z' || c == 'z' then some rest
    else if c == '+' || c == '-' then do
      let (_, l) ← fixedDigits? 2 0 23 rest
      let l ← afterMark? ':' l
      let (_, l) ← fixedDigits? 2 0 59 l
      some l
    else none

/-- A word is a date. -/
def isDate (l : List Char) : Bool :=
  (afterDate? l).any List.isEmpty

/-- A word is a date, a time, or both. -/
def isDateOrTime (l : List Char) : Bool :=
  match afterDate? l with
  | some [] => true
  | some (c :: rest) =>
    (c == 'T' || c == 't' || c == ' ') && ((afterTime? rest).bind afterOffset?).any List.isEmpty
  | none => (afterTime? l).any List.isEmpty

/-- What may be the rest of a word that is a date, after a blank: a time of the day. -/
def startsTime (l : List Char) : Bool :=
  ((fixedDigits? 2 0 99 l).bind fun p => afterMark? ':' p.2).isSome

end TomlReader

end RequestBinding
