import RequestBinding.Document.Basic

/-!
# Numbers in JSON

An integer that has 64 bits, or 63 and a minus sign, is kept as such. Every
other number is a significand of at most 64 bits and a power of ten. Digits that
no longer fit into the significand only count as powers of ten before the point
and are dropped after it. The significand becomes floating point first and is
then multiplied or divided by the power, so that a number is rounded twice.

A number that is too large is an error, and one that is too small is zero. Zero
with a minus sign is floating point.
-/

namespace RequestBinding

namespace JsonNumber

/-- Appends digits to a significand until one no longer fits, and gives the
number of digits that were appended. -/
def append (significand : Nat) : List Char → Nat × Nat
  | [] => (significand, 0)
  | c :: rest =>
    let next := significand * 10 + (digitValue? c).getD 0
    if maxUInt64 < next then (significand, 0)
    else
      let (s, n) := append next rest
      (s, n + 1)

/-- The largest power of ten that one factor holds. -/
def maxPower : Nat := 308

/-- The power of ten as floating point. -/
def power (n : Nat) : Binary64 :=
  .ofNat (Nat.pow 10 n)

/-- Divides by a power of ten, by the largest factors first. -/
def divide (x : Binary64) (n : Nat) : Binary64 :=
  if n ≤ maxPower then x.div (power n)
  else if x.magnitude = 0 then x
  else divide (x.div (power maxPower)) (n - maxPower)
termination_by n
decreasing_by simp only [maxPower] at *; omega

/-- A significand times a power of ten, unless it is too large. -/
def scale? (significand : Nat) (exponent : Int) : Option Binary64 :=
  let x := Binary64.ofNat significand
  if exponent < 0 then some (divide x (-exponent).toNat)
  else if exponent.toNat ≤ maxPower then
    let y := x.mul (power exponent.toNat)
    if y.isFinite then some y else none
  else if significand = 0 then some x
  else none

/-- The integer that digits write, if it is kept as one. -/
def integer? (negative : Bool) (digits : List Char) : Option Int :=
  let n := Binary64.digitsValue digits
  if negative then if 0 < n && n ≤ 9223372036854775808 then some (-(n : Int)) else none
  else if n ≤ maxUInt64 then some n
  else none

/-- A number that has a fraction or an exponent, or is too long for an integer. -/
def float? (negative : Bool) (whole fraction : List Char) (exponent : Int) : Option Binary64 :=
  let (significand, taken) := append 0 whole
  let (significand, more) := append significand fraction
  let exponent := exponent + (whole.length - taken : Nat) - (more : Nat)
  (scale? significand exponent).map (·.withSign negative)

/-- The parts of a number: the digits before and after its point, and what
follows; there is a digit before the point and no zero in front of others. -/
def split? (l : List Char) : Option (List Char × Option (List Char) × List Char) :=
  let (whole, rest) := Binary64.spanDigits l
  if whole.isEmpty || (whole.head? == some '0' && 1 < whole.length) then none
  else
    match rest with
    | '.' :: r =>
      match Binary64.spanDigits r with
      | ([], _) => none
      | (fraction, r) => some (whole, some fraction, r)
    | r => some (whole, none, r)

/-- The number that a list of characters writes. -/
def read? (l : List Char) : Option Document :=
  let (negative, l) : Bool × List Char :=
    match l with
    | '-' :: r => (true, r)
    | r => (false, r)
  match split? l with
  | none => none
  | some (whole, fraction?, rest) =>
    let float (exponent : Int) :=
      (float? negative whole (fraction?.getD []) exponent).map Document.number
    match rest with
    | [] =>
      if fraction?.isSome then float 0
      else
        match integer? negative whole with
        | some n => some (.integer n)
        | none => float 0
    | c :: r =>
      if c == 'e' || c == 'E' then (Binary64.readExponent? Binary64.digitsValue r).bind float
      else none

end JsonNumber

end RequestBinding
