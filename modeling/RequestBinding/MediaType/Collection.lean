import RequestBinding.MediaType.Reading

/-!
# Supported media types

A formatter lists the media types that it supports; each accepts the requests
that it generalises:

* a type or subtype `*` accepts every type or subtype; a `*` with a suffix asks
  for that suffix, a plain `*` for none in particular;
* any other subtype is accepted with exactly the suffix that it has;
* a charset, when the supported type has one, must be the requested one in any
  letter case; other parameters do not matter.

Results:
1. `accepts_push`: a collection accepts what one of its types accepts, so
   neither order nor repetition matters.
2. `accepts_star`: `*/*` accepts everything.
-/

namespace RequestBinding

namespace MediaType

/-- The part of the rule on types. -/
def acceptsType (supported requested : MediaType) : Bool :=
  supported.type == "*" || supported.type == requested.type

/-- The part of the rule on subtypes and suffixes. -/
def acceptsSubtype (supported requested : MediaType) : Bool :=
  if supported.subtype == "*" then
    match supported.suffix? with
    | some s => requested.suffix? == some s
    | none => true
  else supported.subtype == requested.subtype && supported.suffix? == requested.suffix?

/-- The part of the rule on charsets. -/
def acceptsCharset (supported requested : MediaType) : Bool :=
  match supported.charset? with
  | some c => requested.charset? == some c
  | none => true

/-- `supported` accepts `requested`. -/
def accepts (supported requested : MediaType) : Bool :=
  supported.acceptsType requested && supported.acceptsSubtype requested &&
    supported.acceptsCharset requested

/-- `*/*` accepts everything. -/
theorem accepts_star {supported : MediaType} (ht : supported.type = "*")
    (hs : supported.subtype = "*") (hx : supported.suffix? = none) (hp : supported.params = [])
    (requested : MediaType) : supported.accepts requested = true := by
  simp [accepts, acceptsType, acceptsSubtype, acceptsCharset, charset?, param?, ht, hs, hx, hp]

end MediaType

/-- Media types in the order in which they were added. -/
structure MediaTypeCollection where
  types : List MediaType
deriving DecidableEq

namespace MediaTypeCollection

def empty : MediaTypeCollection := ⟨[]⟩

/-- Adds a type after the others. -/
def push (c : MediaTypeCollection) (m : MediaType) : MediaTypeCollection :=
  ⟨c.types ++ [m]⟩

/-- Adds the type that `s` writes. -/
def add (c : MediaTypeCollection) (s : String) : Except MediaTypeError MediaTypeCollection :=
  match MediaType.read s with
  | .ok m => .ok (c.push m)
  | .error e => .error e

/-- One of the types accepts `requested`. -/
def accepts (c : MediaTypeCollection) (requested : MediaType) : Bool :=
  c.types.any (·.accepts requested)

/-- `contentType` writes a media type that one of the types accepts. -/
def isSupported (c : MediaTypeCollection) (contentType : String) : Bool :=
  match MediaType.read? contentType with
  | some m => c.accepts m
  | none => false

/-- The collection as it is shown to a developer. -/
def describe (c : MediaTypeCollection) : String :=
  showRecord "MediaTypeCollection" [("types", showList (c.types.map fun m => quoted m.text))] false

theorem accepts_push (c : MediaTypeCollection) (m requested : MediaType) :
    (c.push m).accepts requested = (c.accepts requested || m.accepts requested) := by
  simp [accepts, push]

end MediaTypeCollection

end RequestBinding
