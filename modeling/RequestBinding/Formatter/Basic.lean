import RequestBinding.Exception
import RequestBinding.Http.Request
import RequestBinding.MediaType.Reading

/-!
# Input formatters

A formatter says whether it can read a request, and reads its body into a model.
It sees the request, the name and the metadata of the model, and whether an
empty input stands for a default value; all that it can change is the body.
-/

namespace RequestBinding

/-- What a formatter sees. -/
structure FormatterContext where
  request : Request
  modelName : String
  metadata : ModelMetadata
  emptyAsDefault : Bool

namespace FormatterContext

/-- The declared content type. -/
def contentType? (c : FormatterContext) : Option String :=
  c.request.headers.contentType?

/-- The declared content type, if it is a media type. -/
def mediaType? (c : FormatterContext) : Option MediaType :=
  c.contentType?.bind MediaType.read?

/-- The declared charset. -/
def charset? (c : FormatterContext) : Option String :=
  c.mediaType?.bind (·.charset?)

/-- The request with another body, as a formatter sees it. -/
def withBody (c : FormatterContext) (body : Body) : FormatterContext :=
  { c with request := { c.request with body := body } }

section

variable (c : FormatterContext) (body : Body)

@[simp] theorem headers_withBody : (c.withBody body).request.headers = c.request.headers := rfl
@[simp] theorem body_withBody : (c.withBody body).request.body = body := rfl
@[simp] theorem metadata_withBody : (c.withBody body).metadata = c.metadata := rfl
@[simp] theorem contentType?_withBody : (c.withBody body).contentType? = c.contentType? := rfl
@[simp] theorem mediaType?_withBody : (c.withBody body).mediaType? = c.mediaType? := rfl
@[simp] theorem charset?_withBody : (c.withBody body).charset? = c.charset? := rfl

end

end FormatterContext

/-- What a formatter read: a model, which may be no value, or nothing. -/
inductive ReadResult where
  | success (model? : Option Model)
  | noValue
deriving DecidableEq

namespace ReadResult

/-- The default value of a model. -/
def ofDefault (m : ModelMetadata) : ReadResult :=
  .success m.default?

/-- The result of an empty input. -/
def ofEmpty (c : FormatterContext) : ReadResult :=
  if c.emptyAsDefault then ofDefault c.metadata else .noValue

@[simp] theorem ofEmpty_withBody (c : FormatterContext) (body : Body) :
    ofEmpty (c.withBody body) = ofEmpty c := rfl

def isModelSet : ReadResult → Bool
  | success _ => true
  | noValue => false

/-- The result as it is shown to a developer. -/
def describe : ReadResult → String
  | success m => showRecord "Success" [("has_model", showBool m.isSome)] false
  | noValue => "NoValue"

end ReadResult

/-- An input formatter. `family` names the kind of formatter, by which a
collection finds it; `convertsExceptions` says that an exception of this
formatter is recorded with the model. -/
structure InputFormatter where
  name : String
  family : String
  canRead : FormatterContext → Bool
  read : FormatterContext → Except ReadError ReadResult × Body
  convertsExceptions : Bool

end RequestBinding
