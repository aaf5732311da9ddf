import RequestBinding.Text.Printable

/-!
# Quoted text and records

How a value is shown to a developer:

* text between double quotes, with `\` before a quote and a backslash, the
  letter escapes of tab, line feed, carriage return and NUL, and the code point
  in hexadecimal between braces for what is not printable;
* a list between brackets;
* an optional value as `Some(…)` or `None`;
* a record as its name and its fields between braces, which end with two dots
  when the record has more to it than it shows.
-/

namespace RequestBinding

/-! ## Hexadecimal digits -/

/-- The digit of `n < 16`, with small letters. -/
def hexDigit (n : Nat) : Char :=
  if n < 10 then Char.ofNat (48 + n) else Char.ofNat (87 + n)

/-- `n` in base 16, without leading zeros. -/
def hexDigits (n : Nat) : List Char :=
  if n < 16 then [hexDigit n] else hexDigits (n / 16) ++ [hexDigit (n % 16)]

/-- The value of a hexadecimal digit, of either case. -/
def hexValue? (c : Char) : Option Nat :=
  if '0' ≤ c && c ≤ '9' then some (c.toNat - 48)
  else if 'a' ≤ c && c ≤ 'f' then some (c.toNat - 87)
  else if 'A' ≤ c && c ≤ 'F' then some (c.toNat - 55)
  else none

/-! ## Quoted text -/

/-- How `c` is written between quotes. -/
def quotedChar (c : Char) : List Char :=
  if c == '\x00' then ['\\', '0']
  else if c == '\t' then ['\\', 't']
  else if c == '\r' then ['\\', 'r']
  else if c == '\n' then ['\\', 'n']
  else if c == '"' || c == '\\' then ['\\', c]
  else if isPrintable c then [c]
  else ['\\', 'u', '\x7B'] ++ hexDigits c.toNat ++ ['\x7D']

/-- `s` between quotes. -/
def quoted (s : String) : String :=
  String.ofList ('"' :: s.toList.flatMap quotedChar ++ ['"'])

/-! ## Records -/

/-- `true` or `false`. -/
def showBool (b : Bool) : String :=
  if b then "true" else "false"

/-- An optional value that is shown by `f`. -/
def showOption {α : Type} (f : α → String) (o : Option α) : String :=
  match o with
  | some a => "Some(" ++ f a ++ ")"
  | none => "None"

/-- Items between brackets. -/
def showList (items : List String) : String :=
  "[" ++ ", ".intercalate items ++ "]"

/-- A record with the given fields; `more` says that it has others. -/
def showRecord (name : String) (fields : List (String × String)) (more : Bool) : String :=
  let items := fields.map (fun f => f.1 ++ ": " ++ f.2) ++ if more then [".."] else []
  name ++ " \x7b " ++ ", ".intercalate items ++ " \x7d"

end RequestBinding
