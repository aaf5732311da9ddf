/-!
# Diagnostic events

Every decision of formatter selection, body binding and form limits is told as
an event, which has a name and a sentence. Events are only observed; nothing
depends on them.
-/

namespace RequestBinding

/-- A decision. -/
inductive Event where
  | rejectedFormatter (formatter contentType : String)
  | selectedFormatter (formatter contentType : String)
  | noFormatterFound (contentType modelName : String)
  | removeFromBodyAdvice (modelName modelType : String)
  | appliedFormLimits
  | cannotApplyFormLimits
  | preemptedPolicy (skipped governing : String)
deriving DecidableEq

namespace Event

/-- The name of an event. -/
def name : Event → String
  | rejectedFormatter _ _ => "rejected_input_formatter"
  | selectedFormatter _ _ => "selected_input_formatter"
  | noFormatterFound _ _ => "no_input_formatter_found"
  | removeFromBodyAdvice _ _ => "remove_from_body_advice"
  | appliedFormLimits => "applied_request_form_limits"
  | cannotApplyFormLimits => "cannot_apply_request_form_limits"
  | preemptedPolicy _ _ => "form_limits_policy_preempted"

/-- The sentence of an event. -/
def message : Event → String
  | rejectedFormatter f c =>
    "Rejected input formatter '" ++ f ++ "' for content type '" ++ c ++ "'."
  | selectedFormatter f c =>
    "Selected input formatter '" ++ f ++ "' for content type '" ++ c ++ "'."
  | noFormatterFound c _ =>
    "No input formatter was found to support the content type '" ++ c ++
      "' for use with the [FromBody] attribute."
  | removeFromBodyAdvice n t =>
    "To use model binding, remove the [FromBody] attribute from the property or parameter " ++
      "named '" ++ n ++ "' with model type '" ++ t ++ "'."
  | appliedFormLimits => "Applied the configured form options on the current request."
  | cannotApplyFormLimits =>
    "Unable to apply configured form options since the request form has already been read."
  | preemptedPolicy s g =>
    "Execution of form limits policy '" ++ s ++ "' is preempted by policy '" ++ g ++
      "' which is the most effective form limits policy."

/-- What an event is about, for a log. -/
def details : Event → List (String × String)
  | rejectedFormatter f c => [("formatter", f), ("content_type", c)]
  | selectedFormatter f c => [("formatter", f), ("content_type", c)]
  | noFormatterFound c n => [("content_type", c), ("model_name", n)]
  | removeFromBodyAdvice n t => [("model_name", n), ("model_type", t)]
  | appliedFormLimits => []
  | cannotApplyFormLimits => []
  | preemptedPolicy s _ => [("policy_id", s)]

end Event

end RequestBinding
