/-!
# Reading integers

An unsigned integer is written with ASCII digits, after one optional plus sign.
It is read digit by digit, and the first digit that cannot be taken decides the
error: one that is no digit, or one that takes the value beyond its maximum.
-/

namespace RequestBinding

/-- The value of an ASCII digit. -/
def digitValue? (c : Char) : Option Nat :=
  if '0' ≤ c && c ≤ '9' then some (c.toNat - 48) else none

/-- Why text is not an integer. -/
inductive IntegerError where
  | empty
  | invalidDigit
  | tooLarge
deriving DecidableEq

/-- The text of the error. -/
def IntegerError.message : IntegerError → String
  | .empty => "cannot parse integer from empty string"
  | .invalidDigit => "invalid digit found in string"
  | .tooLarge => "number too large to fit in target type"

/-- Continues the value `acc` with the digits of a list; no value may exceed `max`. -/
def readDigits (max acc : Nat) : List Char → Except IntegerError Nat
  | [] => .ok acc
  | c :: rest =>
    match digitValue? c with
    | none => .error .invalidDigit
    | some d => if max < acc * 10 + d then .error .tooLarge else readDigits max (acc * 10 + d) rest

/-- The unsigned integer of at most `max` that `s` writes. -/
def readUnsigned (max : Nat) (s : String) : Except IntegerError Nat :=
  match s.toList with
  | [] => .error .empty
  | ['+'] => .error .invalidDigit
  | '+' :: digits => readDigits max 0 digits
  | digits => readDigits max 0 digits

/-- The largest unsigned integers of 32 and of 64 bits. -/
def maxUInt32 : Nat := 4294967295

@[inherit_doc maxUInt32]
def maxUInt64 : Nat := 18446744073709551615

/-- The unsigned integer of 64 bits that `s` writes, if it writes one. -/
def readUInt64? (s : String) : Option UInt64 :=
  match readUnsigned maxUInt64 s with
  | .ok n => some (UInt64.ofNat n)
  | .error _ => none

/-- An integer that is cut off at the largest one of 64 bits. -/
def saturate (n : Nat) : Nat :=
  min n maxUInt64

end RequestBinding
