import RequestBinding.Binder.Basic

/-!
# Providing a binder

A provider has one binder. It gives it for the models that are bound from the
body, and refuses to if the binder has no formatters.
-/

namespace RequestBinding

/-- A binder without formatters was asked for. -/
def noFormattersMessage : String :=
  "The input formatter collection must not be empty. " ++
    "At least one input formatter is required to bind from the body."

/-- Gives the binder of bodies. -/
structure BinderProvider where
  binder : BodyBinder

namespace BinderProvider

/-- The binder of a model, if it is bound from the body. -/
def binder? (p : BinderProvider) (m : ModelMetadata) : Except String (Option BodyBinder) :=
  if m.source? ≠ some .body then .ok none
  else if p.binder.formatters.isEmpty then .error noFormattersMessage
  else .ok (some p.binder)

/-- The provider as it is shown to a developer. -/
def describe (p : BinderProvider) : String :=
  showRecord "BodyModelBinderProvider" [("binder", p.binder.describe)] false

end BinderProvider

end RequestBinding
