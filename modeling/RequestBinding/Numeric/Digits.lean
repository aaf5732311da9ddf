/-!
# The value of digits

Digits of a base stand with the lowest first. Two neighbours are one digit of the
square of the base, so a long row is halved again and again before its digits are
added up; the value stays what it is however often that is done.
-/

namespace RequestBinding

namespace Digits

/-- Joins neighbours, the lower one first, to digits of the square of the base. -/
def joinPairs (base : Nat) : List Nat → List Nat
  | a :: b :: rest => (a + b * base) :: joinPairs base rest
  | ds => ds

/-- The sum of digits with their weights, the lowest first. -/
def weighted (base : Nat) (ds : List Nat) : Nat :=
  ds.foldr (fun d n => d + n * base) 0

/-- The value of digits, whose number is halved in each of several rounds first. -/
def halve (base : Nat) : Nat → List Nat → Nat
  | 0, ds => weighted base ds
  | rounds + 1, ds => halve (base * base) rounds (joinPairs base ds)

/-- The value of digits, the lowest first. -/
def value (base : Nat) (ds : List Nat) : Nat :=
  halve base ds.length.log2 ds

/-- The value that characters write, the highest digit first. -/
def ofChars (base : Nat) (digit : Char → Nat) (l : List Char) : Nat :=
  value base (l.reverse.map digit)

end Digits

end RequestBinding
