import RequestBinding.Form.Parts
import RequestBinding.Form.UrlEncoded
import RequestBinding.Http.Request
import RequestBinding.Journal

/-!
# Reading the form of a request

A request whose content type is one of the two form types has a form, which is
read at most once: the feature that reads it keeps it, and a failed read leaves
the feature without a form. A form may also be given, as long as there is none.

Results:
1. `read_of_form`: a feature with a form gives that form and touches nothing.
2. `give_of_form`: a second form is refused.
-/

namespace RequestBinding

/-- The content type of url-encoded forms. -/
def urlEncodedType : String := "application/x-www-form-urlencoded"

/-- The content type of multipart forms. -/
def formDataType : String := "multipart/form-data"

/-- Reads the form of a request by the given options, in a process that is given
blocks of up to `memory` bytes. -/
def parseForm (o : FormOptions) (r : Request) (memory : Nat := UrlEncoded.maxBlock) :
    Except FormError Form × Body :=
  match MediaType.read? r.contentType with
  | none => (.error (.unsupportedContentType r.contentType), r.body)
  | some m =>
    if m.essence == urlEncodedType then UrlEncoded.read o r.headers.contentLength? r.body memory
    else if m.essence == formDataType then Multipart.read o m r.body
    else (.error (.unsupportedContentType r.contentType), r.body)

/-- The record of a form that was read. -/
def LogRecord.ofForm (f : Form) : LogRecord :=
  ⟨.debug, "Read request form",
    [("keys", toString f.size), ("files", toString f.files.length)]⟩

/-- What a read of the form of a request did. -/
structure FormRead where
  result : Except FormError Form
  feature : FormFeature
  body : Body
  journal : Journal

namespace FormFeature

/-- Gives the form, or reads it from the request. -/
def read (f : FormFeature) (r : Request) (memory : Nat := UrlEncoded.maxBlock) : FormRead :=
  match f.form? with
  | some form => ⟨.ok form, f, r.body, []⟩
  | none =>
    match parseForm f.options r memory with
    | (.ok form, body) =>
      ⟨.ok form, { f with form? := some form }, body, [.record (.ofForm form)]⟩
    | (.error e, body) => ⟨.error e, f, body, []⟩

/-- Gives the feature a form, unless it has one. -/
def give (f : FormFeature) (form : Form) : Except FormError FormFeature :=
  match f.form? with
  | some _ => .error .alreadyRead
  | none => .ok { f with form? := some form }

theorem read_of_form {f : FormFeature} {form : Form} (h : f.form? = some form) (r : Request) :
    f.read r = ⟨.ok form, f, r.body, []⟩ := by
  simp [read, h]

theorem give_of_form {f : FormFeature} {form : Form} (h : f.form? = some form) (form' : Form) :
    f.give form' = .error .alreadyRead := by
  simp [give, h]

end FormFeature

namespace Request

/-- The form feature of a request; without one, an unread one of the default
options. -/
def formOrDefault (r : Request) : FormFeature :=
  r.form?.getD (.ofOptions {})

/-- Reads the form of a request by its feature, which is installed if there is
none. -/
def readForm (r : Request) : Except FormError Form × Request × Journal :=
  let read := r.formOrDefault.read r
  (read.result, { r with body := read.body }.setForm read.feature, read.journal)

/-- Reads the form of a request by its feature, if it has one. -/
def readInstalledForm (r : Request) : Option (Except FormError Form) × Request × Journal :=
  match r.form? with
  | none => (none, r, [])
  | some f =>
    let read := f.read r
    (some read.result, { r with body := read.body }.setForm read.feature, read.journal)

/-- Gives the form feature of a request a form, if it has one. -/
def giveForm (r : Request) (form : Form) : Option (Except FormError Unit) × Request :=
  match r.form? with
  | none => (none, r)
  | some f =>
    match f.give form with
    | .ok f => (some (.ok ()), r.setForm f)
    | .error e => (some (.error e), r)

end Request

end RequestBinding
