import RequestBinding.Binder.Provider
import RequestBinding.Form.Policy

/-!
# Model binding put together

A binding is set up once, with formatters, options for bodies, default limits
for forms and a place for events, and then serves requests: it binds the body of
a request to a type, and gives the policies that a request starts with.

Results:
1. `bindBody_of_no_formatters`: without formatters nothing is tried.
-/

namespace RequestBinding

/-- How model binding is set up. -/
structure ModelBindingSetup where
  formatters : FormatterCollection := .empty
  options : BindingOptions := {}
  formLimits : FormOptions := {}
  sink : Sink := .logging

/-- Model binding, ready for requests. -/
structure ModelBinding where
  provider : BinderProvider
  formLimits : FormOptions
  sink : Sink

/-- A body that was bound, or not, to a type. -/
structure BodyBinding (t : ModelType) where
  model? : Option t.Value
  isModelSet : Bool
  modelState : ModelState

/-- No error was recorded. -/
def BodyBinding.isValid {t : ModelType} (b : BodyBinding t) : Bool :=
  b.modelState.isValid

namespace ModelBindingSetup

/-- The record of a setup. -/
def record (s : ModelBindingSetup) : LogRecord :=
  ⟨.debug, "model binding configured",
    [("formatters", toString s.formatters.size),
     ("allow_empty_input", showBool s.options.allowEmptyInput),
     ("send_bad_request_for_all_exceptions", showBool s.options.convertAllExceptions)]⟩

/-- Puts model binding together. -/
def build (s : ModelBindingSetup) : ModelBinding × Journal :=
  (⟨⟨⟨s.formatters, s.options, s.sink⟩⟩, s.formLimits, s.sink⟩, [.record s.record])

/-- The setup as it is shown to a developer. -/
def describe (s : ModelBindingSetup) : String :=
  showRecord "ModelBindingBuilder"
    [("formatters", s.formatters.describe), ("options", s.options.describe),
     ("form_limits", s.formLimits.describe)] true

end ModelBindingSetup

namespace ModelBinding

/-- The options for bodies. -/
def options (b : ModelBinding) : BindingOptions :=
  b.provider.binder.options

/-- The policy of the default limits. -/
def formLimitsPolicy (b : ModelBinding) (id : String) : Policy :=
  ⟨id, b.formLimits, b.sink⟩

/-- The policies that a request starts with: that of the default limits, for a
scope. -/
def formLimitsPolicies (b : ModelBinding) (id : String) (scope : Scope) : Policies :=
  Policies.empty.register (b.formLimitsPolicy id) scope

/-- The binding as it is shown to a developer. -/
def describe (b : ModelBinding) : String :=
  showRecord "ModelBinding"
    [("provider", b.provider.describe), ("form_limits", b.formLimits.describe)] true

/-- What is known of a body that is bound to a type. -/
def bodyMetadata (type : ModelType) (typeName : String) : ModelMetadata where
  type := type
  typeName := typeName
  source? := some .body

/-- The part of an attempt that a caller sees. -/
def seen (t : ModelType) (a : Attempt) : Except BindingError (BodyBinding t) :=
  match a.outcome with
  | .error e => .error e
  | .ok () =>
    .ok ⟨a.context.result.model?.bind (·.as? t), a.context.result.isModelSet,
      a.context.modelState⟩

/-- Binds the body of a request to a type, under a name; gives the request as it is
left, and what was told. -/
def bindBody (b : ModelBinding) (t : ModelType) (typeName : String) (r : Request)
    (modelName : String) : Except BindingError (BodyBinding t) × Request × Journal :=
  let metadata := bodyMetadata t typeName
  match b.provider.binder? metadata with
  | .error e => (.error (.internal e), r, [])
  | .ok none => (.error (.internal "body binder was not selected"), r, [])
  | .ok (some binder) =>
    let attempt := binder.bind (.topLevel r .empty metadata modelName)
    (seen t attempt, attempt.context.request, attempt.journal)

theorem bindBody_of_no_formatters {b : ModelBinding}
    (h : b.provider.binder.formatters.isEmpty = true) (t : ModelType) (typeName : String)
    (r : Request) (modelName : String) :
    b.bindBody t typeName r modelName = (.error (.internal noFormattersMessage), r, []) := by
  simp [bindBody, BinderProvider.binder?, bodyMetadata, h]

end ModelBinding

end RequestBinding
