import RequestBinding.Formatter.Collection
import RequestBinding.ModelState

/-!
# Binding a body

To bind a model from the body of a request, a formatter is selected and reads
the body. An attempt ends in one of six ways, each with its own measurement:

* no formatter accepts the request: the unsupported content type is recorded;
* a value is read, which may be no model: it becomes the result;
* nothing is read: the message for a missing body is recorded;
* the body is not in the format: the format error is recorded;
* another exception, if the binder or the formatter says so, is recorded;
* any other exception ends the attempt.

What is recorded goes to the model state under the error key: the name that the
binder gave to a top-level model, or else the name of the model in its parent.

Results:
1. `conclude_context`: the answer of a formatter changes neither the request nor
   what is known of the model.
-/

namespace RequestBinding

/-! ## Context and result -/

/-- The result of binding: a value, which may be no model, or none. -/
inductive BindingResult where
  | failed
  | success (model? : Option Model)
deriving DecidableEq

namespace BindingResult

def isModelSet : BindingResult → Bool
  | failed => false
  | success _ => true

/-- The model that was bound. -/
def model? : BindingResult → Option Model
  | failed => none
  | success m => m

/-- The result as it is shown to a developer. -/
def describe (r : BindingResult) : String :=
  showRecord "ModelBindingResult"
    [("is_model_set", showBool r.isModelSet), ("has_model", showBool r.model?.isSome)] false

end BindingResult

/-- What is bound, where its errors go, and what came of it. -/
structure BindingContext where
  request : Request
  modelState : ModelState
  metadata : ModelMetadata
  modelName : String
  fieldName : String
  binderName? : Option String
  isTopLevel : Bool
  source? : Option BindingSource
  result : BindingResult

namespace BindingContext

/-- The context of a model that stands for itself. -/
def topLevel (request : Request) (state : ModelState) (metadata : ModelMetadata)
    (modelName : String) : BindingContext where
  request := request
  modelState := state
  metadata := metadata
  modelName := modelName
  fieldName := modelName
  binderName? := none
  isTopLevel := true
  source? := metadata.source?
  result := .failed

/-- The context of a model that is a field of another. -/
def nested (request : Request) (state : ModelState) (metadata : ModelMetadata)
    (modelName fieldName : String) : BindingContext :=
  { topLevel request state metadata modelName with fieldName := fieldName, isTopLevel := false }

/-- The key under which errors are recorded. -/
def errorKey (c : BindingContext) : String :=
  if c.isTopLevel then c.binderName?.getD "" else c.modelName

/-- Records an exception under the error key. -/
def recordException (c : BindingContext) (e : Exception) : BindingContext :=
  { c with modelState := (c.modelState.addException c.errorKey e).2 }

/-- Records a message under the error key. -/
def recordMessage (c : BindingContext) (message : String) : BindingContext :=
  { c with modelState := (c.modelState.addMessage c.errorKey message).2 }

/-- The context as it is shown to a developer; `id` stands for the identifier of
the request. -/
def describe (c : BindingContext) (id : String) : String :=
  showRecord "ModelBindingContext"
    [("request_id", "RequestId(" ++ id ++ ")"), ("model_name", quoted c.modelName),
     ("field_name", quoted c.fieldName),
     ("binder_model_name", showOption quoted c.binderName?),
     ("is_top_level_object", showBool c.isTopLevel),
     ("binding_source", showOption BindingSource.describe c.source?),
     ("metadata", c.metadata.describe), ("result", c.result.describe)] true

end BindingContext

/-! ## The binder -/

/-- What is allowed when a body is bound. -/
structure BindingOptions where
  allowEmptyInput : Bool := false
  convertAllExceptions : Bool := false
deriving DecidableEq

/-- The options as they are shown to a developer. -/
def BindingOptions.describe (o : BindingOptions) : String :=
  showRecord "BodyBindingOptions"
    [("allow_empty_input_in_body_binding", showBool o.allowEmptyInput),
     ("send_bad_request_for_all_formatter_exceptions", showBool o.convertAllExceptions)] false

/-- Binds models from bodies. -/
structure BodyBinder where
  formatters : FormatterCollection
  options : BindingOptions
  sink : Sink

/-- What came of an attempt: whether it ended in order, the context after it,
and what was told. -/
structure Attempt where
  outcome : Except BindingError Unit
  context : BindingContext
  journal : Journal

namespace BodyBinder

/-- The binder as it is shown to a developer. -/
def describe (b : BodyBinder) : String :=
  showRecord "BodyModelBinder"
    [("formatters", b.formatters.describe), ("options", b.options.describe)] true

/-- What a formatter sees of a context. -/
def formatterContext (b : BodyBinder) (c : BindingContext) : FormatterContext :=
  ⟨c.request, c.modelName, c.metadata, b.options.allowEmptyInput⟩

/-- The record of an exception that ends an attempt. -/
def unhandledRecord (formatter : String) (e : ReadError) : LogRecord :=
  ⟨.warn, "Input formatter failed with an unhandled error",
    [("formatter", formatter), ("error", e.message)]⟩

/-- An attempt for which no formatter was found. -/
def bindNothing (b : BodyBinder) (c : BindingContext) : Attempt where
  outcome := .ok ()
  context := c.recordException (.unsupportedContentType c.request.contentType)
  journal :=
    [b.sink.emit (.removeFromBodyAdvice c.modelName c.metadata.typeName),
     .measurement (.binding .noFormatter Measurement.noFormatterLabel)]

/-- What the answer of the selected formatter makes of a context. -/
def conclude (b : BodyBinder) (f : InputFormatter) (c : BindingContext) :
    Except ReadError ReadResult → Attempt
  | .ok (.success model?) =>
    ⟨.ok (), { c with result := .success model? }, [.measurement (.binding .bound f.name)]⟩
  | .ok .noValue =>
    ⟨.ok (), { c with result := .failed }.recordMessage c.metadata.messages.missingBody,
      [.measurement (.binding .noValue f.name)]⟩
  | .error e =>
    if e.isFormatError then
      ⟨.ok (), c.recordException e.toException, [.measurement (.binding .formatError f.name)]⟩
    else if b.options.convertAllExceptions || f.convertsExceptions then
      ⟨.ok (), c.recordException e.toException,
        [.measurement (.binding .convertedException f.name)]⟩
    else
      ⟨.error (.unhandled e.toException), c,
        [.record (unhandledRecord f.name e),
         .measurement (.binding .unhandledException f.name)]⟩

/-- Binds the model of a context. -/
def bind (b : BodyBinder) (c : BindingContext) : Attempt :=
  let fc := b.formatterContext c
  match b.formatters.select b.sink fc with
  | (none, journal) =>
    let attempt := b.bindNothing c
    { attempt with journal := journal ++ attempt.journal }
  | (some f, journal) =>
    let (answer, body) := f.read fc
    let attempt := b.conclude f { c with request := { c.request with body := body } } answer
    { attempt with journal := journal ++ .measurement (.read f.name) :: attempt.journal }

theorem conclude_context (b : BodyBinder) (f : InputFormatter) (c : BindingContext)
    (answer : Except ReadError ReadResult) :
    (b.conclude f c answer).context.metadata = c.metadata ∧
      (b.conclude f c answer).context.modelName = c.modelName ∧
      (b.conclude f c answer).context.request = c.request := by
  match answer with
  | .ok (.success _) => exact ⟨rfl, rfl, rfl⟩
  | .ok .noValue => exact ⟨rfl, rfl, rfl⟩
  | .error e =>
    simp only [conclude]
    split
    · exact ⟨rfl, rfl, rfl⟩
    · split <;> exact ⟨rfl, rfl, rfl⟩

end BodyBinder

end RequestBinding
