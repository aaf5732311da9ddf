import RequestBinding.Document.TomlToken

/-!
# Values of TOML

A word is a truth value, an integer or a number; a date or a time says nothing that a
setting could be, and is read as null. Lists stand between brackets over as many lines as they need,
tables between braces in one line. Keys have one part or several, joined by
points.

A table knows how it came about: a table that only stands on the way to others
is implicit, and one that a key with points stands for is dotted. Who adds a key
may enter tables of the second kind only.
-/

namespace RequestBinding

namespace TomlReader

/-! ## Words -/

/-- The digits of a number without the underscores between them. -/
def digits? (isDigit : Char → Bool) : List Char → Option (List Char)
  | [] => none
  | [c] => if isDigit c then some [c] else none
  | c :: '_' :: rest => if isDigit c then (digits? isDigit rest).map (c :: ·) else none
  | c :: rest => if isDigit c then (digits? isDigit rest).map (c :: ·) else none

/-- The number that digits write in a base. -/
def baseNumber (base : Nat) (l : List Char) : Nat :=
  Digits.ofChars base (fun c => (hexValue? c).getD 0) l

/-- The largest integer. -/
def maxInteger : Nat := 9223372036854775807

/-- The integer that digits of a base write. -/
def based? (base : Nat) (l : List Char) : Option Document :=
  let isDigit (c : Char) := match hexValue? c with | some d => d < base | none => false
  match digits? isDigit l with
  | some ds =>
    let n := baseNumber base ds
    if n ≤ maxInteger then some (.integer n) else none
  | none => none

/-- Digits that have no zero in front of others. -/
def plainDigits? (l : List Char) : Option (List Char) :=
  match digits? isDecimal l with
  | some ds => if ds.head? == some '0' && 1 < ds.length then none else some ds
  | none => none

/-- A decimal integer, with its sign taken off. -/
def integer? (negative : Bool) (l : List Char) : Option Document :=
  match plainDigits? l with
  | none => none
  | some ds =>
    let n := Binary64.digitsValue ds
    if negative then if n ≤ maxInteger + 1 then some (.integer (-(n : Int))) else none
    else if n ≤ maxInteger then some (.integer n)
    else none

/-- The exponent of a number after its letter. -/
def exponent? (l : List Char) : Option Int :=
  match l with
  | '-' :: r => (digits? isDecimal r).map fun ds => -(Binary64.exponentValue ds : Int)
  | '+' :: r => (digits? isDecimal r).map fun ds => (Binary64.exponentValue ds : Int)
  | r => (digits? isDecimal r).map fun ds => (Binary64.exponentValue ds : Int)

/-- A number with a fraction or an exponent, with its sign taken off. One that
is too large is refused unless it is negative. -/
def number? (negative : Bool) (l : List Char) : Option Document :=
  let isExponent (c : Char) := c == 'e' || c == 'E'
  let mantissa := l.takeWhile (!isExponent ·)
  let whole := mantissa.takeWhile (· != '.')
  let point := mantissa.dropWhile (· != '.')
  let fraction? := match point with | [] => some [] | _ :: r => digits? isDecimal r
  let exponent? := match l.dropWhile (!isExponent ·) with | [] => some 0 | _ :: r => exponent? r
  match plainDigits? whole, fraction?, exponent? with
  | some w, some f, some e =>
    let x := Binary64.ofDecimal (Binary64.digitsValue (w ++ f)) (w ++ f).length (e - f.length)
    if x.isFinite || negative then some (.number (x.withSign negative)) else none
  | _, _, _ => none

/-- The value that a word writes. -/
def wordValue? (l : List Char) : Option Document :=
  if l == "true".toList then some (.flag true)
  else if l == "false".toList then some (.flag false)
  else if isDateOrTime l then some .null
  else
    match l with
    | '0' :: 'x' :: r => based? 16 r
    | '0' :: 'o' :: r => based? 8 r
    | '0' :: 'b' :: r => based? 2 r
    | l =>
      let (negative, r) : Bool × List Char :=
        match l with
        | '-' :: r => (true, r)
        | '+' :: r => (false, r)
        | r => (false, r)
      if r == "inf".toList then some (.number (Binary64.infinity.withSign negative))
      else if r == "nan".toList then some (.number (Binary64.nan.withSign negative))
      else
        match integer? negative r with
        | some d => some d
        | none =>
          if r.any fun c => c == '.' || c == 'e' || c == 'E' then number? negative r else none

/-! ## Keys -/

/-- A piece of a key: a part of it, or a point between parts. -/
inductive KeyPiece where
  | part (name : String)
  | point

/-- `c` may stand in a part without quotes. -/
def isKeyChar (c : Char) : Bool :=
  c.isAlphanum || c == '_' || c == '-'

/-- The pieces of a word. -/
def wordPieces? (part : List Char) : List Char → Option (List KeyPiece)
  | [] => some (ended part [])
  | c :: rest =>
    if c == '.' then (wordPieces? [] rest).map fun ps => ended part (.point :: ps)
    else if isKeyChar c then wordPieces? (c :: part) rest
    else none
where
  /-- The pieces after a part, which may be missing. -/
  ended (part : List Char) (pieces : List KeyPiece) : List KeyPiece :=
    if part.isEmpty then pieces else .part (String.ofList part.reverse) :: pieces

/-- The pieces at the front of the tokens, and what follows them. -/
def pieces? : List Token → Option (List KeyPiece × List Token)
  | .word w :: rest =>
    match wordPieces? [] w, pieces? rest with
    | some ps, some (qs, r) => some (ps ++ qs, r)
    | _, _ => none
  | .text s :: rest => (pieces? rest).map fun (qs, r) => (.part s :: qs, r)
  | rest => some ([], rest)

/-- The parts of a key: pieces in which parts and points take turns. -/
def parts? : List KeyPiece → Option (List String)
  | [.part s] => some [s]
  | .part s :: .point :: rest => (parts? rest).map (s :: ·)
  | _ => none

/-- The key at the front of the tokens, and what follows it. -/
def key? (l : List Token) : Option (List String × List Token) :=
  (pieces? l).bind fun (ps, r) => (parts? ps).map fun key => (key, r)

/-! ## Tables that are being built -/

/-- An item of a table: a value, or a table that may still grow. -/
inductive Item where
  | value (d : Document)
  | table (implicit dotted : Bool) (entries : List (String × Item))

mutual

/-- The document that an item is in the end. -/
def Item.document : Item → Document
  | .value d => d
  | .table _ _ entries => .table (itemDocuments entries)

/-- The entries of the document of a table. -/
def itemDocuments : List (String × Item) → List (String × Document)
  | [] => []
  | (key, item) :: rest => (key, item.document) :: itemDocuments rest

end

/-- Entries with one of them put in its place, or after all others. -/
def putItem (key : String) (item : Item) : List (String × Item) → List (String × Item)
  | [] => [(key, item)]
  | e :: rest => if e.1 = key then (key, item) :: rest else e :: putItem key item rest

/-- A table that is being built. -/
structure Building where
  implicit : Bool
  dotted : Bool
  entries : List (String × Item)

/-- The item that a table is. -/
def Building.item (t : Building) : Item :=
  .table t.implicit t.dotted t.entries

/-- The table that does not hold anything. -/
def Building.empty : Building := ⟨false, false, []⟩

/-- Changes the table at the end of a path; the tables on the way are made where
they are missing. The path is part of a key if `dotted`, or else of a heading. -/
def Building.alter? (dotted : Bool) (change : Building → Option Building) :
    List String → Building → Option Building
  | [], t => change t
  | key :: path, t =>
    let next? : Option Building :=
      match t.entries.lookup key with
      | none => some ⟨true, dotted, []⟩
      | some (.table implicit d entries) =>
        if dotted && !implicit then none else some ⟨implicit, d, entries⟩
      | some (.value _) => none
    match next? with
    | none => none
    | some next =>
      (Building.alter? dotted change path next).map fun next =>
        { t with entries := putItem key next.item t.entries }

/-- Adds an entry under a key of several parts. -/
def Building.add? (key : List String) (value : Document) (t : Building) : Option Building :=
  match key.getLast? with
  | none => none
  | some name =>
    let path := key.dropLast
    t.alter? true (fun t =>
      if t.dotted == path.isEmpty || (t.entries.lookup name).isSome then none
      else some { t with entries := putItem name (.value value) t.entries }) path

/-! ## Values -/

/-- The tokens after ends of lines. -/
def skipNewlines : List Token → List Token
  | .newline :: rest => skipNewlines rest
  | l => l

/- Every token is looked at by at most three of the functions, so that three
times the number of tokens is steps enough. -/
mutual

/-- The value at the front of the tokens, and what follows it. -/
def value? : Nat → List Token → Option (Document × List Token)
  | _ + 1, .word w :: rest => (wordValue? w).map fun d => (d, rest)
  | _ + 1, .text s :: rest => some (.text s, rest)
  | _ + 1, .paragraph s :: rest => some (.text s, rest)
  | n + 1, .openBracket :: rest => (items? n rest).map fun (l, r) => (.list l, r)
  | _ + 1, .openBrace :: .closeBrace :: rest => some (.table [], rest)
  | n + 1, .openBrace :: rest =>
    (entries? n .empty rest).map fun (t, r) => (t.item.document, r)
  | _, _ => none

/-- The items of a list up to its end; there may be a comma after the last. -/
def items? : Nat → List Token → Option (List Document × List Token)
  | 0, _ => none
  | n + 1, l =>
    match skipNewlines l with
    | .closeBracket :: rest => some ([], rest)
    | l =>
      match value? n l with
      | none => none
      | some (d, rest) =>
        match skipNewlines rest with
        | .closeBracket :: rest => some ([d], rest)
        | .comma :: rest => (items? n rest).map fun (l, r) => (d :: l, r)
        | _ => none

/-- The entries of a table up to its end, added to those so far. -/
def entries? : Nat → Building → List Token → Option (Building × List Token)
  | 0, _, _ => none
  | n + 1, t, l =>
    match key? l with
    | some (key, .equals :: rest) =>
      match value? n rest with
      | none => none
      | some (d, rest) =>
        match t.add? key d with
        | none => none
        | some t =>
          match rest with
          | .closeBrace :: rest => some (t, rest)
          | .comma :: rest => entries? n t rest
          | _ => none
    | _ => none

end

end TomlReader

end RequestBinding
