import RequestBinding.Numeric.Digits
import RequestBinding.Numeric.Integer

/-!
# Binary floating point of 64 bits

A number is its sixteen hexadecimal digits: the sign, eleven bits of exponent
and 52 of fraction. Results are the exact value rounded to the nearest number,
a tie to the one with an even fraction; what lies beyond the largest number by
half a step or more is infinity.

Exact values are non-negative quotients of natural numbers, so that rounding is
one function, `ofRatio`, and a product or quotient of two numbers is the rounded
product or quotient of their exact values.
-/

namespace RequestBinding

/-- A floating-point number, by its bits. -/
structure Binary64 where
  bits : UInt64
deriving DecidableEq

namespace Binary64

/-! ## Special numbers -/

/-- The bits of infinity, which are above those of every finite number. -/
def infinityBits : Nat := 0x7FF0000000000000

/-- The weight of the sign bit. -/
def signBit : Nat := 0x8000000000000000

/-- The weight of the bit in front of the fraction, 2 to the 52. -/
def leadingBit : Nat := 0x10000000000000

def infinity : Binary64 := ⟨UInt64.ofNat infinityBits⟩

def nan : Binary64 := ⟨0x7FF8000000000000⟩

/-- The bits of the number without its sign. -/
def magnitude (x : Binary64) : Nat :=
  x.bits.toNat % signBit

def isFinite (x : Binary64) : Bool :=
  x.magnitude < infinityBits

def isNaN (x : Binary64) : Bool :=
  infinityBits < x.magnitude

/-- The number with the magnitude of `x` and the given sign. -/
def withSign (negative : Bool) (x : Binary64) : Binary64 :=
  ⟨UInt64.ofNat (x.magnitude + if negative then signBit else 0)⟩

/-! ## Rounding -/

/-- `num / den`, rounded to a natural number, a tie to the even one. -/
def roundDiv (num den : Nat) : Nat :=
  let q := num / den
  let r := num % den
  if 2 * r < den then q
  else if den < 2 * r then q + 1
  else q + q % 2

/-- `num / den` in units of `2 ^ (e - 1074)`, rounded. -/
def scaled (num den e : Nat) : Nat :=
  if e ≤ 1074 then roundDiv (num <<< (1074 - e)) den else roundDiv num (den <<< (e - 1074))

/-- `num / den` is at least `2 ^ (e - 1022)`, so that it has 53 bits or more in
units of `2 ^ (e - 1074)`. -/
def reaches (num den e : Nat) : Bool :=
  if e ≤ 1022 then den ≤ num <<< (1022 - e) else den <<< (e - 1022) ≤ num

/-- The exponent of the unit in which `num / den` has 53 bits, counted from that
of the smallest unit; zero if even that unit is too large. -/
def unitExponent (num den : Nat) : Nat :=
  let e := num.log2 + 1022 - den.log2
  if reaches num den e then e else e - 1

/-- The number nearest to `num / den`. -/
def ofRatio (num den : Nat) : Binary64 :=
  if num = 0 then ⟨0⟩
  else
    let e := unitExponent num den
    ⟨UInt64.ofNat (min infinityBits (e * leadingBit + scaled num den e))⟩

/-- The exact value of a finite number without its sign, as a quotient. -/
def toRatio (x : Binary64) : Nat × Nat :=
  let e := x.magnitude / leadingBit
  let m := x.magnitude % leadingBit
  if e = 0 then (m, 1 <<< 1074)
  else if e ≤ 1075 then (m + leadingBit, 1 <<< (1075 - e))
  else ((m + leadingBit) <<< (e - 1075), 1)

/-! ## Arithmetic on finite numbers of positive sign -/

/-- The number nearest to a natural number. -/
def ofNat (n : Nat) : Binary64 :=
  ofRatio n 1

/-- The product. -/
def mul (x y : Binary64) : Binary64 :=
  let (a, b) := x.toRatio
  let (c, d) := y.toRatio
  ofRatio (a * c) (b * d)

/-- The quotient by a number other than zero. -/
def div (x y : Binary64) : Binary64 :=
  let (a, b) := x.toRatio
  let (c, d) := y.toRatio
  ofRatio (a * d) (b * c)

/-! ## Decimal text -/

/-- The number nearest to `digits * 10 ^ exponent`, where `digits` is below
`10 ^ count`. Beyond the exponents that are tested the value is above every
number, or below half the smallest one. -/
def ofDecimal (digits count : Nat) (exponent : Int) : Binary64 :=
  if digits = 0 then ⟨0⟩
  else if 400 < exponent then infinity
  else if exponent + count < -400 then ⟨0⟩
  else if 0 ≤ exponent then ofRatio (digits * Nat.pow 10 exponent.toNat) 1
  else ofRatio digits (Nat.pow 10 (-exponent).toNat)

/-- The digits at the front of `l`, and what follows them. -/
def spanDigits (l : List Char) : List Char × List Char :=
  (l.takeWhile fun c => (digitValue? c).isSome, l.dropWhile fun c => (digitValue? c).isSome)

/-- The number that digits write. -/
def digitsValue (l : List Char) : Nat :=
  Digits.ofChars 10 (fun c => (digitValue? c).getD 0) l

/-- The exponent that digits write. Digits count until it is 65,536 or more. -/
def exponentValue (l : List Char) : Nat :=
  l.foldl (fun n c => if n < 65536 then n * 10 + (digitValue? c).getD 0 else n) 0

/-- An exponent without its letter: a sign that may be missing, and one digit or
more, whose value is `value`. -/
def readExponent? (value : List Char → Nat) (l : List Char) : Option Int :=
  let (negative, digits) : Bool × List Char :=
    match l with
    | '-' :: r => (true, r)
    | '+' :: r => (false, r)
    | r => (false, r)
  match spanDigits digits with
  | (d :: ds, []) =>
    let n : Int := value (d :: ds)
    some (if negative then -n else n)
  | _ => none

/-- A number without its sign: digits with a point that may be missing and at
least one digit on one side of it, then an exponent that may be missing. -/
def readUnsignedDecimal? (l : List Char) : Option Binary64 :=
  let (whole, rest) := spanDigits l
  let (fraction, rest) :=
    match rest with
    | '.' :: r => spanDigits r
    | r => ([], r)
  let digits := whole ++ fraction
  if digits.isEmpty then none
  else
    let exponent? : Option Int :=
      match rest with
      | [] => some 0
      | 'e' :: r => readExponent? exponentValue r
      | 'E' :: r => readExponent? exponentValue r
      | _ => none
    match exponent? with
    | none => none
    | some e => some (ofDecimal (digitsValue digits) digits.length (e - fraction.length))

/-- The number that `s` writes: in decimal, or one of the words `inf`,
`infinity` and `nan` in any case, after a sign that may be missing. -/
def read? (s : String) : Option Binary64 :=
  let (negative, l) : Bool × List Char :=
    match s.toList with
    | '-' :: r => (true, r)
    | '+' :: r => (false, r)
    | r => (false, r)
  let word := String.ofList (l.map Char.toLower)
  let value? :=
    if word == "inf" || word == "infinity" then some infinity
    else if word == "nan" then some nan
    else readUnsignedDecimal? l
  match value? with
  | some x => some (x.withSign negative)
  | none => none

end Binary64

end RequestBinding
