import RequestBinding.Document.Basic
import RequestBinding.Document.TomlDate
import RequestBinding.Text.Quoted

/-!
# Tokens of TOML

TOML is read as words, texts, marks and ends of lines. A word is a run of the
characters of keys, numbers, dates and the point, or two of them when they are a
date and a time with a blank between them; what it means is decided by where it
stands. Text stands between two kinds of quotes, with escapes between double
quotes only, and between three quotes of a kind it may have several lines.

Control characters other than the tab stand nowhere, not even in comments.
-/

namespace RequestBinding

namespace TomlReader

/-- A token. A paragraph is text between three quotes, which is a value but no
key. -/
inductive Token where
  | word (letters : List Char)
  | text (value : String)
  | paragraph (value : String)
  | openBracket
  | closeBracket
  | openBrace
  | closeBrace
  | equals
  | comma
  | newline

/-- `c` may stand in a comment or in text. -/
def isTextChar (c : Char) : Bool :=
  c == '\t' || (0x20 ≤ c.toNat && c.toNat != 0x7F)

/-- `c` may stand in a word. -/
def isWordChar (c : Char) : Bool :=
  c.isAlphanum || c == '_' || c == '-' || c == '+' || c == ':' || c == '.'

/-- `c` may stand between tokens of a line. -/
def isBlank (c : Char) : Bool :=
  c == ' ' || c == '\t'

/-! ## Escapes -/

/-- The number that hexadecimal digits write. -/
def hexNumber? (l : List Char) : Option Nat :=
  l.foldlM (fun n c => (hexValue? c).map (n * 16 + ·)) 0

/-- The character of a code point. -/
def scalar? (n : Nat) : Option Char :=
  if n < 0xD800 || (0xE000 ≤ n && n < 0x110000) then some (Char.ofNat n) else none

/-- The character that a letter stands for after a backslash. -/
def escaped? (c : Char) : Option Char :=
  if c == '"' || c == '\\' then some c
  else if c == 'b' then some '\x08'
  else if c == 't' then some '\t'
  else if c == 'n' then some '\n'
  else if c == 'f' then some '\x0C'
  else if c == 'r' then some '\r'
  else none

/-- The character of an escape after its backslash, and how many characters the
escape has. -/
def escape? : List Char → Option (Char × Nat)
  | [] => none
  | c :: rest =>
    if c == 'u' || c == 'U' then
      let n := if c == 'u' then 4 else 8
      if rest.length < n then none
      else ((hexNumber? (rest.take n)).bind scalar?).map fun c => (c, n + 1)
    else (escaped? c).map fun c => (c, 1)

/-! ## Text

The functions that read text take the characters so far, the last first, and at
most `n` steps; every step leaves at least one character behind. -/

/-- Text in double quotes, up to the closing one. -/
def basic? (before : List Char) : Nat → List Char → Option (String × List Char)
  | n + 1, c :: rest =>
    if c == '"' then some (String.ofList before.reverse, rest)
    else if c == '\\' then
      match escape? rest with
      | some (e, k) => basic? (e :: before) n (rest.drop k)
      | none => none
    else if isTextChar c then basic? (c :: before) n rest
    else none
  | _, _ => none

/-- Text in single quotes, up to the closing one. -/
def literal? (before : List Char) : List Char → Option (String × List Char)
  | [] => none
  | c :: rest =>
    if c == '\'' then some (String.ofList before.reverse, rest)
    else if isTextChar c then literal? (c :: before) rest
    else none

/-- What follows the end of a line. -/
def afterNewline? : List Char → Option (List Char)
  | '\n' :: rest => some rest
  | '\r' :: '\n' :: rest => some rest
  | _ => none

/-- What follows blanks and ends of lines. -/
def skipLines : List Char → List Char
  | [] => []
  | c :: rest =>
    if isBlank c || c == '\n' then skipLines rest
    else if c == '\r' && rest.head? == some '\n' then skipLines rest
    else c :: rest

/-- The end of a paragraph at a run of quotes `q`: three close it, and up to two
before them belong to it. The answer is the number of those and the rest. -/
def closing? (q : Char) (l : List Char) : Option (Nat × List Char) :=
  let run := (l.takeWhile (· == q)).length
  if run < 3 then none else some (min (run - 3) 2, l.drop (min run 5))

/-- A paragraph in quotes of the kind `q`, up to the closing ones. -/
def paragraph? (q : Char) (before : List Char) : Nat → List Char → Option (String × List Char)
  | n + 1, c :: rest =>
    if c == q then
      match closing? q (c :: rest) with
      | some (k, rest) => some (String.ofList (before.reverse ++ List.replicate k q), rest)
      | none => paragraph? q (c :: before) n rest
    else if c == '\\' && q == '"' then
      match afterNewline? (rest.dropWhile isBlank) with
      | some next => paragraph? q before n (skipLines next)
      | none =>
        match escape? rest with
        | some (e, k) => paragraph? q (e :: before) n (rest.drop k)
        | none => none
    else
      match afterNewline? (c :: rest) with
      | some next => paragraph? q ('\n' :: before) n next
      | none => if isTextChar c then paragraph? q (c :: before) n rest else none
  | _, _ => none

/-- The text after an opening quote `q`, which may be the first of three. -/
def quotedToken? (q : Char) (l : List Char) : Option (Token × List Char) :=
  match l with
  | a :: b :: rest =>
    if a == q && b == q then
      let rest := (afterNewline? rest).getD rest
      (paragraph? q [] rest.length rest).map fun (s, r) => (.paragraph s, r)
    else (line? (a :: b :: rest)).map fun (s, r) => (.text s, r)
  | l => (line? l).map fun (s, r) => (.text s, r)
where
  /-- Text in one line. -/
  line? (l : List Char) : Option (String × List Char) :=
    if q == '"' then basic? [] l.length l else literal? [] l

/-! ## All tokens -/

/-- The token of a mark. -/
def mark? (c : Char) : Option Token :=
  if c == '[' then some .openBracket
  else if c == ']' then some .closeBracket
  else if c == '\x7B' then some .openBrace
  else if c == '\x7D' then some .closeBrace
  else if c == '=' then some .equals
  else if c == ',' then some .comma
  else none

/-- The word at the front of a list that begins with one, and what follows it. -/
def word (l : List Char) : List Char × List Char :=
  let first := l.takeWhile isWordChar
  match l.dropWhile isWordChar with
  | ' ' :: rest =>
    if isDate first && startsTime rest then
      (first ++ ' ' :: rest.takeWhile isWordChar, rest.dropWhile isWordChar)
    else (first, ' ' :: rest)
  | rest => (first, rest)

/-- The token at the front of a list that begins neither with a blank nor with a
comment, and what follows it. -/
def token? : List Char → Option (Token × List Char)
  | [] => none
  | c :: rest =>
    if c == '"' || c == '\'' then quotedToken? c rest
    else if isWordChar c then
      let (letters, rest) := word (c :: rest)
      some (.word letters, rest)
    else
      match mark? c, afterNewline? (c :: rest) with
      | some t, _ => some (t, rest)
      | none, some rest => some (.newline, rest)
      | none, none => none

/-- `c` stands in a comment and does not end it. -/
def inComment (c : Char) : Bool :=
  isTextChar c

/-- The tokens of a list of at most `n` characters; `before` are those so far,
the last first. -/
def tokens? (before : List Token) : Nat → List Char → Option (List Token)
  | _, [] => some before.reverse
  | 0, _ => none
  | n + 1, c :: rest =>
    if isBlank c then tokens? before n rest
    else if c == '#' then tokens? before n (rest.dropWhile inComment)
    else
      match token? (c :: rest) with
      | some (t, rest) => tokens? (t :: before) n rest
      | none => none

end TomlReader

end RequestBinding
