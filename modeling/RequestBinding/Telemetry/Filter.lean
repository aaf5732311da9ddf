import RequestBinding.Numeric.Integer
import RequestBinding.Text.Alphanumeric
import RequestBinding.Text.Blank
import RequestBinding.Text.Case
import RequestBinding.Text.Quoted

/-!
# Log filters

A filter is a list of directives between commas. A directive is a level, a
target, or a target with a level after an equals sign; empty ones do not count.
A target may have a span in brackets, and a span a field in braces; the target may
then be left out. The letter case of a level does not matter.

A configured level has to pass a check of its own, `isValidLevel`, which looks
at the end of every directive only: it must be a level by name.
-/

namespace RequestBinding

/-- The levels of a log, by name. -/
def levelNames : List String :=
  ["trace", "debug", "info", "warn", "error", "off"]

/-- `s` is a level by name, in any letter case. -/
def isLevelName (s : String) : Bool :=
  levelNames.contains (asciiLower s)

/-- `s` is a level by name or by number. -/
def isLevel (s : String) : Bool :=
  isLevelName s || match readUInt64? s with | some n => n ≤ 5 | none => false

/-- The pieces of `s` between commas. -/
def commaPieces (s : String) : List String :=
  (s.toList.splitOn ',').map String.ofList

/-- The pieces of `s` between commas without the blanks around them; empty
pieces are left out. -/
def trimmedPieces (s : String) : List String :=
  ((commaPieces s).map trim).filter (· ≠ "")

/-! ## Filters -/

/-- `c` may begin the target of a directive. What follows it is free. -/
def startsTarget (c : Char) : Bool :=
  isAlphanumeric c || c == '_' || c == '-' || c == ':'

/-- `l` is the level after an equals sign, which may be left out. -/
def isGivenLevel (l : List Char) : Bool :=
  l.isEmpty || isLevel (String.ofList l)

/-- `l` goes on as a directive after a span: with blanks, or a level if it may have
one. -/
def endsSpan (leveled : Bool) : List Char → Bool
  | '=' :: level => leveled && isGivenLevel level
  | l => l.all isBlank

/-- `l` goes on as a directive inside the braces of a span: with a field, which may
have a value, and the ends of the braces and the span. -/
def endsField (leveled : Bool) (l : List Char) : Bool :=
  match l.takeWhile (· != '\x7D'), l.dropWhile (· != '\x7D') with
  | _ :: _, _ :: ']' :: rest => endsSpan leveled rest
  | _, _ => false

/-- `l` goes on as a directive inside the brackets of a span. -/
def endsBracket (leveled : Bool) : List Char → Bool
  | [] => false
  | c :: rest =>
    if c == ']' then endsSpan leveled rest
    else if c == '\x7B' then endsField leveled rest
    else endsBracket leveled rest

/-- `s` is a directive. Blanks in front of it are passed over, but then it has no
level; blanks behind it belong to its last part. -/
def isDirective (s : String) : Bool :=
  let leveled := match s.toList with | [] => true | c :: _ => !isBlank c
  match s.toList.dropWhile isBlank with
  | [] => false
  | c :: rest =>
    if c == '[' then endsBracket leveled rest
    else
      startsTarget c &&
        match rest.dropWhile fun c => c != '=' && c != '[' with
        | '=' :: level => leveled && isGivenLevel level
        | '[' :: span => endsBracket leveled span
        | _ => true

/-- `s` is a filter. -/
def isFilter (s : String) : Bool :=
  (commaPieces s).all fun d => d == "" || isDirective d

/-! ## Configured levels -/

/-- The end of a directive: what follows its last equals sign, or all of it. -/
def directiveEnd (s : String) : String :=
  String.ofList (s.toList.reverse.takeWhile (· != '=')).reverse

/-- `s` has a directive, and all of its directives end in a level. -/
def isValidLevel (s : String) : Bool :=
  !(trimmedPieces s).isEmpty && (trimmedPieces s).all fun d => isLevelName (directiveEnd d)

end RequestBinding
