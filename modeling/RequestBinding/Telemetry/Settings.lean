import RequestBinding.Numeric.Binary64
import RequestBinding.Text.Case

/-!
# Telemetry settings

How a service writes its log and counts what it does: the form and the level of
the log, the boundaries of the histograms, and the names of the service and of
its environment.
-/

namespace RequestBinding

/-! ## Logging -/

/-- The forms of a log: one document per record, several lines, or one line. -/
inductive LogFormat where
  | json
  | pretty
  | compact
deriving DecidableEq

namespace LogFormat

/-- The name of a form. -/
def name : LogFormat → String
  | json => "json"
  | pretty => "pretty"
  | compact => "compact"

/-- All forms. -/
def all : List LogFormat := [json, pretty, compact]

/-- The form of a name. -/
def ofName? (name : String) : Option LogFormat :=
  all.find? (·.name == name)

theorem ofName?_name (f : LogFormat) : ofName? f.name = some f := by
  cases f <;> decide

end LogFormat

/-- How the log is written. -/
structure LogSettings where
  enabled : Bool := true
  level : String := "info"
  format : LogFormat := .json
  spanEvents : Bool := false
  fileLineInfo : Bool := false
  threadIds : Bool := false
  includeTarget : Bool := true
  respectEnvironment : Bool := true
deriving DecidableEq

/-- The log of a developer. -/
def LogSettings.development : LogSettings where
  level := "debug"
  format := .pretty
  spanEvents := true
  fileLineInfo := true

/-- The log of a service at work. -/
def LogSettings.production : LogSettings := {}

/-! ## Metrics -/

/-- The boundaries of a histogram of durations in seconds, from a tenth of a
millisecond to a second. -/
def defaultBuckets : List Binary64 :=
  [1, 5, 10, 50, 100, 500, 1000, 5000, 10000].map fun n => Binary64.ofRatio n 10000

/-- The name of a service without one. -/
def defaultServiceName : String := "modelbind"

/-- What is counted, and under which name. -/
structure MetricsSettings where
  enabled : Bool := true
  serviceName : String := defaultServiceName
  durationBuckets : List Binary64 := defaultBuckets
deriving DecidableEq

/-! ## Both -/

/-- All of telemetry. -/
structure TelemetrySettings where
  serviceName : String := defaultServiceName
  environment : String := "development"
  metrics : MetricsSettings := {}
  logging : LogSettings := {}
deriving DecidableEq

/-- The settings of an environment: only one called `production`, in any letter
case, does without the log of a developer. -/
def TelemetrySettings.forEnvironment (environment : String) : TelemetrySettings where
  environment := environment
  logging := if asciiLower environment == "production" then .production else .development

/-- Settings that are put together one by one. -/
structure TelemetryDraft where
  serviceName? : Option String := none
  environment? : Option String := none
  metrics? : Option MetricsSettings := none
  logging? : Option LogSettings := none

namespace TelemetryDraft

/-- Counts nothing. -/
def withoutMetrics (d : TelemetryDraft) : TelemetryDraft :=
  { d with metrics? := some { d.metrics?.getD {} with enabled := false } }

/-- Sets the level of the log. -/
def withLevel (d : TelemetryDraft) (level : String) : TelemetryDraft :=
  { d with logging? := some { d.logging?.getD {} with level := level } }

/-- The settings of a draft; what was not set is as usual, and the metrics take
the name of the service. -/
def build (d : TelemetryDraft) : TelemetrySettings :=
  let serviceName := d.serviceName?.getD defaultServiceName
  { serviceName := serviceName
    environment := d.environment?.getD "development"
    metrics := { d.metrics?.getD {} with serviceName := serviceName }
    logging := d.logging?.getD {} }

end TelemetryDraft

end RequestBinding
