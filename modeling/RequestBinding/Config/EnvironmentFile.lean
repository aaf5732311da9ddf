import RequestBinding.Config.Variables
import RequestBinding.Text.Alphanumeric
import RequestBinding.Text.Utf8

/-!
# Files of variables

A file of variables has one on each line: a name, after the word `export` if one
likes, an equals sign, and a value. A value stands bare or between single or
double quotes, and what stands between quotes may go on over several lines. A
backslash takes away the meaning of the next character, a dollar sign is followed
by the name of a variable, and a number sign after a blank begins a comment.

Variables that have a value keep it.
-/

namespace RequestBinding

namespace EnvironmentFile

/-! ## Lines -/

/-- Where a line stands: between its parts, after a backslash, in quotes, or
after a blank. -/
inductive LineState where
  | between
  | escape
  | single
  | singleEscape
  | double
  | doubleEscape
  | blank
deriving DecidableEq

/-- How a character other than a blank or a comment changes the state. -/
def LineState.enter (c : Char) : LineState :=
  if c == '\\' then escape
  else if c == '"' then double
  else if c == '\'' then single
  else between

/-- The state after a character. -/
def LineState.next : LineState → Char → LineState
  | between, c => if isBlank c && c != '\n' && c != '\r' then blank else enter c
  | blank, c => enter c
  | escape, _ => between
  | single, c => if c == '\\' then singleEscape else if c == '\'' then between else single
  | singleEscape, _ => single
  | double, c => if c == '\\' then doubleEscape else if c == '"' then between else double
  | doubleEscape, _ => double

/-- The state at the end of a line, or the part of it before a comment. -/
def scanLine (state : LineState) (before : List Char) : List Char → LineState ⊕ List Char
  | [] => .inl state
  | c :: rest =>
    if state = .blank ∧ c = '#' then .inr before.reverse
    else scanLine (state.next c) (c :: before) rest

/-- The text cut after each end of a line. -/
def cutLines : List Char → List (List Char)
  | [] => []
  | c :: rest =>
    if c == '\n' then [c] :: cutLines rest
    else
      match cutLines rest with
      | [] => [[c]]
      | line :: more => (c :: line) :: more

/-- A line without its end. -/
def withoutEnd (l : List Char) : List Char :=
  match l.reverse with
  | '\n' :: '\r' :: r => r.reverse
  | '\n' :: r => r.reverse
  | _ => l

/-- The lines of a file, where a line goes on as long as something is open;
`openPart` is what belongs to the line so far, the last character first. -/
def joinLines (openPart : List Char) (state : LineState) :
    List (List Char) → Option (List (List Char))
  | [] => if state = .between then some [] else none
  | line :: rest =>
    if openPart.isEmpty && (line.dropWhile isBlank).head? == some '#' then
      joinLines [] .between rest
    else
      match scanLine state [] line with
      | .inr kept => (joinLines [] .between rest).map ((openPart.reverse ++ kept) :: ·)
      | .inl .between =>
        (joinLines [] .between rest).map (withoutEnd (openPart.reverse ++ line) :: ·)
      | .inl state => joinLines (line.reverse ++ openPart) state rest

/-! ## Values -/

/-- Where a value stands: outside quotes, in quotes, after a backslash, in the
name of a variable, after its end, or in a comment. `quoted` says that what comes
next stands between double quotes. -/
inductive ValueState where
  | text (quoted : Bool)
  | single
  | escape (quoted : Bool)
  | name (quoted : Bool) (letters : List Char)
  | braced (quoted : Bool) (letters : List Char)
  | ended
  | comment
deriving DecidableEq

/-- What follows `front` in `l`, if `l` begins so. -/
def after? : List Char → List Char → Option (List Char)
  | [], l => some l
  | _ :: _, [] => none
  | c :: front, d :: l => if c = d then after? front l else none

/-- The value of a name. Every variable is a text, its name and its value joined by
an equals sign, and the value of a name is what follows the name and an equals sign
in the first text that begins so. A name that has an equals sign of its own can thus
end inside a value. -/
def valueOfName (vars : List Variable) (name : List Char) : List Char :=
  if name.isEmpty then []
  else
    (vars.findSome? fun v => after? (name ++ ['=']) (v.1.toList ++ '=' :: v.2.toList)).getD []

/-- The value of the name with the given letters, the last first. -/
def valueOf (vars : List Variable) (letters : List Char) : List Char :=
  valueOfName vars letters.reverse

/-- Takes one more character of a value; `out` is the value so far, the last
character first. -/
def valueStep (vars : List Variable) (s : ValueState × List Char) (c : Char) :
    Option (ValueState × List Char) :=
  let (state, out) := s
  match state with
  | .comment => some s
  | .ended =>
    if c == ' ' || c == '\t' then some s else if c == '#' then some (.comment, out) else none
  | .escape q =>
    if c == '\\' || c == '\'' || c == '"' || c == '$' || c == ' ' then some (.text q, c :: out)
    else if c == 'n' then some (.text q, '\n' :: out)
    else none
  | .single => if c == '\'' then some (.text false, out) else some (.single, c :: out)
  | .name q letters =>
    if isAlphanumeric c then some (.name q (c :: letters), out)
    else if c == '\x7B' && letters.isEmpty then some (.braced q [], out)
    else
      let out := (valueOf vars letters).reverse ++ out
      if c == '$' then some (.name q [], out) else some (.text q, c :: out)
  | .braced q letters =>
    if c == '\x7D' then some (.text q, (valueOf vars letters).reverse ++ out)
    else some (.braced q (c :: letters), out)
  | .text true =>
    if c == '$' then some (.name true [], out)
    else if c == '"' then some (.text false, out)
    else if c == '\\' then some (.escape true, out)
    else some (.text true, c :: out)
  | .text false =>
    if c == '$' then some (.name false [], out)
    else if c == '\'' then some (.single, out)
    else if c == '"' then some (.text true, out)
    else if c == '\\' then some (.escape false, out)
    else if c == ' ' || c == '\t' then some (.ended, out)
    else some (.text false, c :: out)

/-- The value that is complete at the end of a line. -/
def valueEnd (vars : List Variable) : ValueState × List Char → Option String
  | (.text false, out) => some (String.ofList out.reverse)
  | (.escape false, out) => some (String.ofList out.reverse)
  | (.name false letters, out) => some (String.ofList (out.reverse ++ valueOf vars letters))
  | (.ended, out) => some (String.ofList out.reverse)
  | (.comment, out) => some (String.ofList out.reverse)
  | _ => none

/-- The value that a list of characters writes. -/
def value? (vars : List Variable) (l : List Char) : Option String :=
  (l.foldlM (valueStep vars) (.text false, [])).bind (valueEnd vars)

/-! ## Variables -/

/-- `c` may begin a name. -/
def startsName (c : Char) : Bool :=
  c.isAlpha || c == '_'

/-- `c` may stand in a name. -/
def inName (c : Char) : Bool :=
  c.isAlphanum || c == '_' || c == '.'

/-- The name at the front of a line, and what follows it and blanks. -/
def name? (l : List Char) : Option (String × List Char) :=
  match l with
  | [] => none
  | c :: _ =>
    if startsName c then
      some (String.ofList (l.takeWhile inName), (l.dropWhile inName).dropWhile isBlank)
    else none

/-- The name and the value on a line, split at the equals sign. -/
def split? (l : List Char) : Option (String × List Char) :=
  match name? l with
  | none => none
  | some (name, '=' :: rest) => some (name, rest)
  | some (name, rest) =>
    if name == "export" then
      match name? rest with
      | some (name, '=' :: rest) => some (name, rest)
      | _ => none
    else none

/-- The variable on a line, if there is one. -/
def line? (vars : List Variable) (l : List Char) : Option (Option Variable) :=
  let l := (dropTrailingBlanks l).dropWhile isBlank
  if l.isEmpty || l.head? == some '#' then some none
  else
    match split? l with
    | none => none
    | some (name, rest) =>
      let rest := rest.dropWhile isBlank
      if rest.isEmpty || rest.head? == some '#' then some (some (name, ""))
      else (value? vars rest).map fun v => some (name, v)

/-- Sets a variable, unless it has a value. -/
def set (vars : List Variable) (v : Variable) : List Variable :=
  if (vars.lookup v.1).isSome then vars else vars ++ [v]

/-- Sets the variables of lines one after another. -/
def setLines (vars : List Variable) : List (List Char) → Option (List Variable)
  | [] => some vars
  | l :: rest =>
    match line? vars l with
    | none => none
    | some none => setLines vars rest
    | some (some v) => setLines (set vars v) rest

/-- A file without a mark of the byte order. -/
def withoutMark : Bytes → Bytes
  | 0xEF :: 0xBB :: 0xBF :: rest => rest
  | bs => bs

/-- Sets the variables of a file. -/
def load? (vars : List Variable) (bs : Bytes) : Option (List Variable) :=
  match Utf8.decode (withoutMark bs) with
  | .error _ => none
  | .ok s => (joinLines [] .between (cutLines s.toList)).bind (setLines vars)

end EnvironmentFile

end RequestBinding
