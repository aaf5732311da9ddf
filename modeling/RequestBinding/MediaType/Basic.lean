import RequestBinding.Http.Token
import RequestBinding.Text.Case
import RequestBinding.Text.Quoted

/-!
# Media types

A media type is a type, a subtype with an optional suffix after its last plus
sign, and parameters. Its text is read byte by byte:

* type and subtype are tokens around a slash; the subtype may be empty at the
  end of the text;
* parameters follow semicolons, with spaces before their names; a value is a
  token or stands between quotes, where nothing is escaped;
* all names are kept in lower case, and so is the value of `charset`.

`*/*` and other wildcards are media types like any other.
-/

namespace RequestBinding

/-! ## Errors -/

/-- Why text is not a media type. -/
inductive MediaTypeError where
  | missingSlash
  | missingEqual
  | missingQuote
  /-- The byte at `position` may not stand there. -/
  | invalidToken (byte : UInt8) (position : Nat)
deriving DecidableEq

/-- `n` in base 16 with capital letters. -/
def upperHex (n : Nat) : String :=
  String.ofList ((hexDigits n).map Char.toUpper)

/-- The text of the error. -/
def MediaTypeError.message (e : MediaTypeError) : String :=
  "mime parse error: " ++
    match e with
    | .missingSlash => "a slash (/) was missing between the type and subtype"
    | .missingEqual => "an equals sign (=) was missing between a parameter and its value"
    | .missingQuote => "a quote (\") was missing from a parameter value"
    | .invalidToken b p =>
      "an invalid token was encountered, " ++ upperHex b.toNat ++ " at position " ++ toString p

/-! ## The type -/

/-- A media type in the form in which it is kept. -/
structure MediaType where
  type : String
  subtype : String
  suffix? : Option String
  params : List (String × String)
  /-- The whole as it is shown. -/
  text : String
deriving DecidableEq

namespace MediaType

/-- The type with its subtype and suffix. -/
def essence (m : MediaType) : String :=
  m.type ++ "/" ++ m.subtype ++ match m.suffix? with | some s => "+" ++ s | none => ""

/-- The value of the first parameter of a name. -/
def param? (m : MediaType) (name : String) : Option String :=
  m.params.lookup name

/-- The declared charset. -/
def charset? (m : MediaType) : Option String :=
  (m.param? "charset").map asciiLower

end MediaType

end RequestBinding
