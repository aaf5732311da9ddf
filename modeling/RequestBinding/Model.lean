import RequestBinding.Text.Quoted
import RequestBinding.Text.Utf8

/-!
# Models and their metadata

A model is a value of one of the model types: text, numbers and truth values, and
the types that a service brings along, of which it is only known which one it is
and what stands for a value. What is known of a model before
it is bound (its type, where it is bound from, the message for a missing body,
and whether an empty input stands for a default value) is its metadata.

Results:
1. `as?_mk`: a model is read at its own type.
2. `as?_of_ne`: and at no other.
-/

namespace RequestBinding

/-! ## Models -/

/-- The types of models; `other` are those of a service, told apart by a number. -/
inductive ModelType where
  | text
  | number
  | flag
  | other (id : Nat)
deriving DecidableEq

/-- The values of a type; those of a service's own type by the bytes that stand for
them. -/
@[reducible] def ModelType.Value : ModelType → Type
  | text => String
  | number => UInt32
  | flag => Bool
  | other _ => Bytes

instance (t : ModelType) : DecidableEq t.Value :=
  match t with
  | .text => inferInstanceAs (DecidableEq String)
  | .number => inferInstanceAs (DecidableEq UInt32)
  | .flag => inferInstanceAs (DecidableEq Bool)
  | .other _ => inferInstanceAs (DecidableEq Bytes)

/-- The value that stands for an empty input. -/
def ModelType.default : (t : ModelType) → t.Value
  | text => ""
  | number => (0 : UInt32)
  | flag => false
  | other _ => []

/-- A value with its type. -/
structure Model where
  type : ModelType
  value : type.Value
deriving DecidableEq

/-- The value of a model at a type, if it is the model's own. -/
def Model.as? (m : Model) (t : ModelType) : Option t.Value :=
  if h : m.type = t then some (h ▸ m.value) else none

theorem Model.as?_mk (t : ModelType) (v : t.Value) : (Model.mk t v).as? t = some v := by
  simp [Model.as?]

theorem Model.as?_of_ne {m : Model} {t : ModelType} (h : m.type ≠ t) : m.as? t = none := by
  simp [Model.as?, h]

/-! ## Metadata -/

/-- Where a model is bound from. -/
inductive BindingSource where
  | body
  | form
  | query
  | path
  | header
  | services
deriving DecidableEq

/-- The name of a source. -/
def BindingSource.name : BindingSource → String
  | body => "body"
  | form => "form"
  | query => "query"
  | path => "path"
  | header => "header"
  | services => "services"

/-- The name of a source as it is shown to a developer. -/
def BindingSource.describe : BindingSource → String
  | body => "Body"
  | form => "Form"
  | query => "Query"
  | path => "Path"
  | header => "Header"
  | services => "Services"

/-- All sources. -/
def BindingSource.all : List BindingSource :=
  [body, form, query, path, header, services]

/-- The source of a name. -/
def BindingSource.ofName? (name : String) : Option BindingSource :=
  all.find? (·.name == name)

/-- The messages of a model that a caller may replace. -/
structure Messages where
  missingBody : String := "A non-empty request body is required."
deriving DecidableEq

/-- The messages as they are shown to a developer. -/
def Messages.describe (m : Messages) : String :=
  showRecord "ModelBindingMessageProvider"
    [("missing_request_body_required_value", quoted m.missingBody)] false

/-- What is known of a model before it is bound. `typeName` is what messages
call its type. -/
structure ModelMetadata where
  type : ModelType
  typeName : String
  source? : Option BindingSource := none
  messages : Messages := {}
  hasDefault : Bool := false
deriving DecidableEq

namespace ModelMetadata

/-- The value that stands for an empty input, if there is one. -/
def default? (m : ModelMetadata) : Option Model :=
  if m.hasDefault then some ⟨m.type, m.type.default⟩ else none

/-- The metadata as they are shown to a developer. -/
def describe (m : ModelMetadata) : String :=
  showRecord "ModelMetadata"
    [("type_name", quoted m.typeName),
     ("binding_source", showOption BindingSource.describe m.source?),
     ("has_default", showBool m.hasDefault)] false

end ModelMetadata

end RequestBinding
