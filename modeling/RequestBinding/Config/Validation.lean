import RequestBinding.Config.Error
import RequestBinding.Config.Setting
import RequestBinding.Telemetry.Filter

/-!
# Validity of a configuration

A valid configuration has a level of the log that is known, two limits that are
not zero, buffers that fit, and boundaries for its histograms. The first rule
that is broken is the error.

Results:
1. `violation?_eq_none_iff`: a valid configuration keeps all five rules.
-/

namespace RequestBinding

/-- A broken rule. -/
inductive Violation where
  | unknownLevel (level : String)
  | zeroLimit (field : LimitField)
  | thresholdAbove (limit : UInt64)
  | noBuckets
deriving DecidableEq

namespace Violation

/-- The setting that breaks the rule, with its section. -/
def field : Violation → String
  | unknownLevel _ => "logging.level"
  | zeroLimit f => "form_limits." ++ f.name
  | thresholdAbove _ => "form_limits.memory_buffer_threshold"
  | noBuckets => "metrics.duration_buckets"

/-- What is wrong with it. -/
def reason : Violation → String
  | unknownLevel l => "unknown log level: " ++ l
  | zeroLimit _ => "must be greater than zero"
  | thresholdAbove n => "must not exceed buffer_body_length_limit (" ++ toString n ++ ")"
  | noBuckets => "at least one bucket is required"

/-- The error of a broken rule. -/
def toError (v : Violation) : ConfigError :=
  .invalidValue v.field v.reason

end Violation

namespace Configuration

/-- The first rule that a configuration breaks. -/
def violation? (c : Configuration) : Option Violation :=
  if !isValidLevel c.logging.level then some (.unknownLevel c.logging.level)
  else if c.formLimits.valueCountLimit = 0 then some (.zeroLimit .valueCountLimit)
  else if c.formLimits.multipartBoundaryLengthLimit = 0 then
    some (.zeroLimit .multipartBoundaryLengthLimit)
  else if c.formLimits.bufferBody
      ∧ c.formLimits.bufferBodyLengthLimit < c.formLimits.memoryBufferThreshold then
    some (.thresholdAbove c.formLimits.bufferBodyLengthLimit)
  else if c.metrics.enabled ∧ c.metrics.durationBuckets = [] then some .noBuckets
  else none

/-- Checks a configuration. -/
def validate (c : Configuration) : Except ConfigError Unit :=
  match c.violation? with
  | some v => .error v.toError
  | none => .ok ()

theorem violation?_eq_none_iff (c : Configuration) :
    c.violation? = none ↔
      isValidLevel c.logging.level = true ∧ c.formLimits.valueCountLimit ≠ 0 ∧
        c.formLimits.multipartBoundaryLengthLimit ≠ 0 ∧
        (c.formLimits.bufferBody = true →
          c.formLimits.memoryBufferThreshold ≤ c.formLimits.bufferBodyLengthLimit) ∧
        (c.metrics.enabled = true → c.metrics.durationBuckets ≠ []) := by
  simp only [violation?, ← UInt64.not_lt]
  split
  · simp_all
  · split
    · simp_all
    · split
      · simp_all
      · split
        · simp_all
        · split <;> simp_all

end Configuration

end RequestBinding
