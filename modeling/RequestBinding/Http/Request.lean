import RequestBinding.Http.Body
import RequestBinding.Http.Features
import RequestBinding.Http.Headers
import RequestBinding.Http.RequestId
import RequestBinding.Http.Uri

/-!
# Requests

A request as binding sees it: its head, its body, which can be read once, and
the features that the pipeline left with it. A request is put together leniently
(a method or field that may not stand in a message is left out), or taken from
a message, which must be right in every part.
-/

namespace RequestBinding

/-- A request. -/
structure Request where
  id? : Option RequestId := none
  method : String := "GET"
  uri : Uri := ⟨none, none, "/", none⟩
  headers : Headers := .empty
  body : Body := .empty
  features : Features := .empty

/-- A request as it is described from outside. -/
structure RequestParts where
  id? : Option String
  method? : Option String
  uri : String
  headers : List (String × String)
  body : Body

namespace Request

/-- A request put together from parts; a method that is no token is left out. -/
def ofParts (p : RequestParts) : Request where
  id? := p.id?.bind RequestId.read?
  method :=
    match p.method? with
    | some m => if isToken m then m else "GET"
    | none => "GET"
  headers := p.headers.foldl (fun h f => h.add f.1 f.2) .empty
  body := p.body

/-- The headers of a message, if all of them may stand in one. -/
def messageHeaders? (fields : List (String × String)) : Option Headers :=
  fields.foldlM (fun h f =>
    match Headers.name? f.1, Headers.value? f.2 with
    | some n, some v => some (h.append n v)
    | _, _ => none) .empty

/-- A request taken from a message, if every part of it is right. -/
def ofMessage? (p : RequestParts) : Option Request := do
  let method := p.method?.getD "GET"
  if isToken method then
    let uri ← Uri.read? p.uri
    let headers ← messageHeaders? p.headers
    some { id? := p.id?.bind RequestId.read?, method, uri, headers, body := p.body }
  else none

/-- The declared content type, or nothing at all. -/
def contentType (r : Request) : String :=
  r.headers.contentType?.getD ""

/-- The form of the request, if one is installed. -/
def form? (r : Request) : Option FormFeature :=
  r.features.get? .form

/-- Installs a form. -/
def setForm (r : Request) (f : FormFeature) : Request :=
  { r with features := r.features.insert .form f }

theorem form?_setForm (r : Request) (f : FormFeature) : (r.setForm f).form? = some f :=
  Features.get?_insert_self _ _ _

theorem setForm_setForm (r : Request) (f g : FormFeature) :
    (r.setForm f).setForm g = r.setForm g :=
  congrArg (fun fs => { r with features := fs }) (Features.insert_insert _ _ _ _)

end Request

end RequestBinding
