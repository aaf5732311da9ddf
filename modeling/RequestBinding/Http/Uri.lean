import RequestBinding.Text.Case

/-!
# Request targets

A target is a path with an optional query, an authority alone, an asterisk, or
a scheme with an authority, a path and a query. A fragment is cut off. It is
written back with a slash for an empty path after an authority.
-/

namespace RequestBinding

/-- A request target. -/
structure Uri where
  scheme? : Option String
  authority? : Option String
  path : String
  query? : Option String
deriving DecidableEq

namespace Uri

/-- The text of a target. -/
def text (u : Uri) : String :=
  (match u.scheme? with | some s => s ++ "://" | none => "") ++ u.authority?.getD "" ++ u.path ++
    match u.query? with | some q => "?" ++ q | none => ""

/-- The longest target. -/
def maxLength : Nat := 65534

/-- The longest scheme. -/
def maxSchemeLength : Nat := 64

/-! ## Path and query -/

/-- `c` may stand in a path. Quotes and braces should be escaped there, but
are let through. -/
def isPathChar (c : Char) : Bool :=
  let n := c.toNat
  n == 0x21 || n == 0x22 || (0x24 ≤ n && n ≤ 0x3B) || n == 0x3D || (0x40 ≤ n && n ≤ 0x5F) ||
    (0x61 ≤ n && n ≤ 0x7E) || 0x80 ≤ n

/-- `c` may stand in a query. -/
def isQueryChar (c : Char) : Bool :=
  let n := c.toNat
  n == 0x21 || (0x24 ≤ n && n ≤ 0x3B) || n == 0x3D || (0x3F ≤ n && n ≤ 0x7E) || 0x80 ≤ n

/-- Splits a path from its query and checks both; a fragment is dropped. -/
def readPath? (l : List Char) : Option (String × Option String) :=
  let l := l.takeWhile (· != '#')
  let path := l.takeWhile (· != '?')
  let query? := (l.dropWhile (· != '?')).tail?
  if path.all isPathChar && (query?.getD []).all isQueryChar then
    some (String.ofList path, query?.map String.ofList)
  else none

/-! ## Authority -/

/-- What has been seen of an authority. -/
structure AuthorityScan where
  colons : Nat
  opened : Bool
  closed : Bool
  percent : Bool
  /-- The last character is an at sign. -/
  atEnd : Bool

/-- `c` may stand in an authority without a meaning of its own. -/
def isAuthorityChar (c : Char) : Bool :=
  c.isAlphanum || "!$&'()*+,-.;=_~".toList.contains c

/-- Takes one more character of an authority. Colons and percent signs before an
at sign belong to the user information, those between brackets to an address. -/
def AuthorityScan.step (s : AuthorityScan) (c : Char) : Option AuthorityScan :=
  if c == ':' then
    if 8 ≤ s.colons then none else some { s with colons := s.colons + 1, atEnd := false }
  else if c == '[' then
    if s.percent || s.opened then none else some { s with opened := true, atEnd := false }
  else if c == ']' then
    if !s.opened || s.closed then none
    else some { s with closed := true, colons := 0, percent := false, atEnd := false }
  else if c == '@' then some { s with colons := 0, percent := false, atEnd := true }
  else if c == '%' then some { s with percent := true, atEnd := false }
  else if isAuthorityChar c then some { s with atEnd := false }
  else none

/-- The characters of an authority are in order. -/
def isAuthority (l : List Char) : Bool :=
  match l.foldlM AuthorityScan.step ⟨0, false, false, false, false⟩ with
  | some s => s.opened == s.closed && s.colons ≤ 1 && !s.atEnd && !s.percent
  | none => false

/-- `c` ends an authority. -/
def endsAuthority (c : Char) : Bool :=
  c == '/' || c == '?' || c == '#'

/-! ## Scheme -/

/-- `c` may stand in a scheme. -/
def isSchemeChar (c : Char) : Bool :=
  c.isAlphanum || c == '+' || c == '-' || c == '.' || c == '~'

/-- The scheme at the front of a target and what follows it, if there is one. -/
def splitScheme? (l : List Char) : Option (String × List Char) :=
  let scheme := l.takeWhile isSchemeChar
  match l.dropWhile isSchemeChar with
  | ':' :: '/' :: '/' :: rest => some (String.ofList scheme, rest)
  | _ => none

/-- The form in which a scheme is kept: the two common ones in lower case. -/
def schemeText (scheme : String) : String :=
  let lower := asciiLower scheme
  if lower == "http" || lower == "https" then lower else scheme

/-! ## Targets -/

/-- The target that `s` writes. -/
def read? (s : String) : Option Uri :=
  let l := s.toList
  if s.utf8ByteSize > maxLength then none
  else
    match l with
    | [] => none
    | ['*'] => some ⟨none, none, "*", none⟩
    | '/' :: _ =>
      match readPath? l with
      | some (path, query?) => some ⟨none, none, path, query?⟩
      | none => none
    | _ =>
      match splitScheme? l with
      | none => if isAuthority l then some ⟨none, some s, "", none⟩ else none
      | some (scheme, rest) =>
        let authority := rest.takeWhile (!endsAuthority ·)
        if scheme.length > maxSchemeLength || authority.isEmpty || !isAuthority authority then none
        else
          match readPath? (rest.dropWhile (!endsAuthority ·)) with
          | some (path, query?) =>
            some ⟨some (schemeText scheme), some (String.ofList authority),
              if path.isEmpty then "/" else path, query?⟩
          | none => none

end Uri

end RequestBinding
