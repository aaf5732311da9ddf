import RequestBinding.Binder.Basic
import RequestBinding.Form.Options
import RequestBinding.Telemetry.Settings

/-!
# Settings

A configuration has twenty settings in four sections. Each has a name in its
section and a type, and can be read and set by itself.

Results:
1. `get_set_self`, `get_set_of_ne`: setting one changes it and no other.
-/

namespace RequestBinding

/-! ## Configuration -/

/-- What a configuration says of the log. -/
structure LoggingSection where
  enabled : Bool := true
  level : String := "info"
  format : LogFormat := .json
  spanEvents : Bool := false
  includeLocation : Bool := false
deriving DecidableEq

/-- The settings of the log; those that a configuration does not have are as
usual. -/
def LoggingSection.toSettings (l : LoggingSection) : LogSettings where
  enabled := l.enabled
  level := l.level
  format := l.format
  spanEvents := l.spanEvents
  fileLineInfo := l.includeLocation

/-- The configuration of a service. -/
structure Configuration where
  binding : BindingOptions := {}
  formLimits : FormOptions := {}
  logging : LoggingSection := {}
  metrics : MetricsSettings := {}
deriving DecidableEq

namespace Configuration

/-- The configuration of a developer. -/
def development : Configuration where
  logging := { level := "debug", format := .pretty, spanEvents := true, includeLocation := true }

/-- The configuration of a service at work. -/
def production : Configuration where
  binding := { convertAllExceptions := true }

/-- The telemetry of a configuration. -/
def telemetry (c : Configuration) : TelemetrySettings :=
  { serviceName? := some c.metrics.serviceName
    metrics? := some c.metrics
    logging? := some c.logging.toSettings : TelemetryDraft }.build

end Configuration

/-! ## Types of settings -/

/-- The types of settings. -/
inductive SettingType where
  | flag
  | count
  | text
  | format
  | numbers
deriving DecidableEq

/-- The values of a type. -/
@[reducible] def SettingType.Value : SettingType → Type
  | flag => Bool
  | count => UInt64
  | text => String
  | format => LogFormat
  | numbers => List Binary64

/-! ## Sections and settings -/

/-- The sections of a configuration. -/
inductive ConfigSection where
  | binding
  | formLimits
  | logging
  | metrics
deriving DecidableEq

/-- A setting. -/
inductive Setting where
  | allowEmptyInput
  | convertAllExceptions
  | bufferBody
  | limit (field : LimitField)
  | loggingEnabled
  | level
  | logFormat
  | spanEvents
  | includeLocation
  | metricsEnabled
  | serviceName
  | durationBuckets
deriving DecidableEq

namespace Setting

/-- The type of a setting. -/
@[reducible] def type : Setting → SettingType
  | allowEmptyInput => .flag
  | convertAllExceptions => .flag
  | bufferBody => .flag
  | limit _ => .count
  | loggingEnabled => .flag
  | level => .text
  | logFormat => .format
  | spanEvents => .flag
  | includeLocation => .flag
  | metricsEnabled => .flag
  | serviceName => .text
  | durationBuckets => .numbers

/-- The name of a setting in its section. -/
def name : Setting → String
  | allowEmptyInput => "allow_empty_input_in_body_binding"
  | convertAllExceptions => "send_bad_request_for_all_formatter_exceptions"
  | bufferBody => "buffer_body"
  | limit f => f.name
  | loggingEnabled => "enabled"
  | level => "level"
  | logFormat => "format"
  | spanEvents => "span_events"
  | includeLocation => "include_location"
  | metricsEnabled => "enabled"
  | serviceName => "service_name"
  | durationBuckets => "duration_buckets"

/-- The section that a setting stands in. -/
def sectionOf : Setting → ConfigSection
  | allowEmptyInput => .binding
  | convertAllExceptions => .binding
  | bufferBody => .formLimits
  | limit _ => .formLimits
  | loggingEnabled => .logging
  | level => .logging
  | logFormat => .logging
  | spanEvents => .logging
  | includeLocation => .logging
  | metricsEnabled => .metrics
  | serviceName => .metrics
  | durationBuckets => .metrics

end Setting

namespace ConfigSection

/-- All sections, in the order in which they are listed. -/
def all : List ConfigSection := [binding, formLimits, logging, metrics]

/-- The name of a section. -/
def name : ConfigSection → String
  | binding => "binding"
  | formLimits => "form_limits"
  | logging => "logging"
  | metrics => "metrics"

/-- The settings of a section, in the order in which they are listed. -/
def settings : ConfigSection → List Setting
  | binding => [.allowEmptyInput, .convertAllExceptions]
  | formLimits => .bufferBody :: LimitField.all.map .limit
  | logging => [.loggingEnabled, .level, .logFormat, .spanEvents, .includeLocation]
  | metrics => [.metricsEnabled, .serviceName, .durationBuckets]

theorem mem_all (s : ConfigSection) : s ∈ all := by
  cases s <;> decide

end ConfigSection

/-- All settings. -/
def Setting.all : List Setting :=
  ConfigSection.all.flatMap ConfigSection.settings

theorem Setting.mem_settings (s : Setting) : s ∈ s.sectionOf.settings := by
  cases s with
  | limit f =>
    simp only [Setting.sectionOf, ConfigSection.settings, List.mem_cons, reduceCtorEq, false_or]
    exact List.mem_map_of_mem (LimitField.mem_all f)
  | _ => decide

theorem Setting.mem_all (s : Setting) : s ∈ Setting.all :=
  List.mem_flatMap.2 ⟨s.sectionOf, ConfigSection.mem_all _, s.mem_settings⟩

/-! ## Reading and setting -/

namespace Configuration

/-- The value of a setting. -/
def get (c : Configuration) : (s : Setting) → s.type.Value
  | .allowEmptyInput => c.binding.allowEmptyInput
  | .convertAllExceptions => c.binding.convertAllExceptions
  | .bufferBody => c.formLimits.bufferBody
  | .limit f => c.formLimits.get f
  | .loggingEnabled => c.logging.enabled
  | .level => c.logging.level
  | .logFormat => c.logging.format
  | .spanEvents => c.logging.spanEvents
  | .includeLocation => c.logging.includeLocation
  | .metricsEnabled => c.metrics.enabled
  | .serviceName => c.metrics.serviceName
  | .durationBuckets => c.metrics.durationBuckets

/-- Replaces the value of a setting. -/
def set (c : Configuration) : (s : Setting) → s.type.Value → Configuration
  | .allowEmptyInput, v => { c with binding := { c.binding with allowEmptyInput := v } }
  | .convertAllExceptions, v => { c with binding := { c.binding with convertAllExceptions := v } }
  | .bufferBody, v => { c with formLimits := { c.formLimits with bufferBody := v } }
  | .limit f, v => { c with formLimits := c.formLimits.set f v }
  | .loggingEnabled, v => { c with logging := { c.logging with enabled := v } }
  | .level, v => { c with logging := { c.logging with level := v } }
  | .logFormat, v => { c with logging := { c.logging with format := v } }
  | .spanEvents, v => { c with logging := { c.logging with spanEvents := v } }
  | .includeLocation, v => { c with logging := { c.logging with includeLocation := v } }
  | .metricsEnabled, v => { c with metrics := { c.metrics with enabled := v } }
  | .serviceName, v => { c with metrics := { c.metrics with serviceName := v } }
  | .durationBuckets, v => { c with metrics := { c.metrics with durationBuckets := v } }

theorem get_set_self (c : Configuration) (s : Setting) (v : s.type.Value) :
    (c.set s v).get s = v := by
  cases s with
  | limit f => simp [get, set, FormOptions.get_set]
  | _ => rfl

theorem get_set_of_ne (c : Configuration) {s t : Setting} (h : t ≠ s) (v : s.type.Value) :
    (c.set s v).get t = c.get t := by
  cases s with
  | limit f =>
    cases t with
    | limit g =>
      have hg : g ≠ f := fun e => h (by rw [e])
      simp [get, set, FormOptions.get_set, hg]
    | bufferBody => exact FormOptions.bufferBody_set _ _ _
    | _ => rfl
  | bufferBody =>
    cases t with
    | limit g => cases g <;> rfl
    | bufferBody => exact absurd rfl h
    | _ => rfl
  | _ =>
    cases t with
    | limit g => rfl
    | _ => first | rfl | exact absurd rfl h

end Configuration

end RequestBinding
