import RequestBinding.Document.JsonNumber
import RequestBinding.Text.Quoted

/-!
# Documents in JSON

Text is cut into tokens, and the tokens are read as one value. Nothing is
overlooked: there are no comments and no commas at the end of a list, text
between quotes holds no control characters and no half of a surrogate pair, and
nothing follows the value. Entries of a table are kept in their order, also
those of a key that has another.
-/

namespace RequestBinding

namespace JsonReader

/-- A token: a mark, text between quotes, or any other plain value. -/
inductive Token where
  | openList
  | closeList
  | openTable
  | closeTable
  | colon
  | comma
  | text (value : String)
  | plain (value : Document)

/-! ## Tokens -/

/-- `c` may stand between tokens. -/
def isBlank (c : Char) : Bool :=
  c == ' ' || c == '\t' || c == '\n' || c == '\r'

/-- The number that four hexadecimal digits write. -/
def unit? (a b c d : Char) : Option Nat := do
  let a ← hexValue? a
  let b ← hexValue? b
  let c ← hexValue? c
  let d ← hexValue? d
  some (((a * 16 + b) * 16 + c) * 16 + d)

/-- `u` is the first half of a surrogate pair. -/
def isHighSurrogate (u : Nat) : Bool := 0xD800 ≤ u && u < 0xDC00

/-- `u` is the second half of a surrogate pair. -/
def isLowSurrogate (u : Nat) : Bool := 0xDC00 ≤ u && u < 0xE000

/-- The character of a surrogate pair. -/
def pairChar (high low : Nat) : Char :=
  Char.ofNat (0x10000 + (high - 0xD800) * 0x400 + (low - 0xDC00))

/-- The character that a letter stands for after a backslash. -/
def escaped? (c : Char) : Option Char :=
  if c == '"' || c == '\\' || c == '/' then some c
  else if c == 'b' then some '\x08'
  else if c == 'f' then some '\x0C'
  else if c == 'n' then some '\n'
  else if c == 'r' then some '\r'
  else if c == 't' then some '\t'
  else none

/-- The text up to the closing quote, and what follows it; `before` is the text
so far, last character first. -/
def text? (before : List Char) : List Char → Option (String × List Char)
  | [] => none
  | '"' :: rest => some (String.ofList before.reverse, rest)
  | '\\' :: 'u' :: a :: b :: c :: d :: rest =>
    match unit? a b c d with
    | none => none
    | some u =>
      if isLowSurrogate u then none
      else if isHighSurrogate u then
        match rest with
        | '\\' :: 'u' :: a :: b :: c :: d :: rest =>
          match unit? a b c d with
          | none => none
          | some v => if isLowSurrogate v then text? (pairChar u v :: before) rest else none
        | _ => none
      else text? (Char.ofNat u :: before) rest
  | '\\' :: c :: rest =>
    match escaped? c with
    | some e => text? (e :: before) rest
    | none => none
  | c :: rest => if c.toNat < 0x20 then none else text? (c :: before) rest

/-- `c` may stand in a number or in one of the words. -/
def isPlainChar (c : Char) : Bool :=
  c.isAlphanum || c == '-' || c == '+' || c == '.'

/-- The value that a run of plain characters writes. -/
def plain? (l : List Char) : Option Document :=
  if l == "null".toList then some .null
  else if l == "true".toList then some (.flag true)
  else if l == "false".toList then some (.flag false)
  else JsonNumber.read? l

/-- The token of a mark. -/
def mark? (c : Char) : Option Token :=
  if c == '[' then some .openList
  else if c == ']' then some .closeList
  else if c == '\x7B' then some .openTable
  else if c == '\x7D' then some .closeTable
  else if c == ':' then some .colon
  else if c == ',' then some .comma
  else none

/-- The token at the front of a list that does not begin with a blank, and what
follows it. -/
def token? : List Char → Option (Token × List Char)
  | [] => none
  | '"' :: rest => (text? [] rest).map fun (s, r) => (.text s, r)
  | c :: rest =>
    match mark? c with
    | some t => some (t, rest)
    | none =>
      let l := c :: rest
      (plain? (l.takeWhile isPlainChar)).map fun d => (.plain d, l.dropWhile isPlainChar)

/-- The tokens of a list of at most `n` characters; `before` are those so far,
the last first. -/
def tokens? (before : List Token) : Nat → List Char → Option (List Token)
  | _, [] => some before.reverse
  | 0, _ => none
  | n + 1, c :: rest =>
    if isBlank c then tokens? before n rest
    else
      match token? (c :: rest) with
      | some (t, rest) => tokens? (t :: before) n rest
      | none => none

/-! ## Values

Every token is looked at by at most two of the functions, so that twice the
number of tokens is steps enough. -/

mutual

/-- The value at the front of the tokens, and what follows it. -/
def value? : Nat → List Token → Option (Document × List Token)
  | _ + 1, .plain d :: rest => some (d, rest)
  | _ + 1, .text s :: rest => some (.text s, rest)
  | _ + 1, .openList :: .closeList :: rest => some (.list [], rest)
  | _ + 1, .openTable :: .closeTable :: rest => some (.table [], rest)
  | n + 1, .openList :: rest => (items? n rest).map fun (l, r) => (.list l, r)
  | n + 1, .openTable :: rest => (entries? n rest).map fun (l, r) => (.table l, r)
  | _, _ => none

/-- The items of a list up to its end. -/
def items? : Nat → List Token → Option (List Document × List Token)
  | 0, _ => none
  | n + 1, l =>
    match value? n l with
    | some (d, .closeList :: rest) => some ([d], rest)
    | some (d, .comma :: rest) => (items? n rest).map fun (l, r) => (d :: l, r)
    | _ => none

/-- The entries of a table up to its end. -/
def entries? : Nat → List Token → Option (List (String × Document) × List Token)
  | n + 1, .text key :: .colon :: rest =>
    match value? n rest with
    | some (d, .closeTable :: rest) => some ([(key, d)], rest)
    | some (d, .comma :: rest) => (entries? n rest).map fun (l, r) => ((key, d) :: l, r)
    | _ => none
  | _, _ => none

end

/-- The one value that tokens are. -/
def document? (tokens : List Token) : Option Document :=
  match value? (2 * tokens.length + 1) tokens with
  | some (d, []) => some d
  | _ => none

end JsonReader

/-- The document that `s` writes in JSON. -/
def Document.ofJson? (s : String) : Option Document :=
  (JsonReader.tokens? [] s.length s.toList).bind JsonReader.document?

end RequestBinding
