import RequestBinding.Telemetry.Filter
import RequestBinding.Telemetry.Settings

/-!
# Starting telemetry

Log and metrics are started once per process, the log first, so that a failure
of the metrics can be seen. What is disabled is not started. Everything is
checked before anything is taken, and what another part of the process has taken
before cannot be started.
-/

namespace RequestBinding

/-- Why telemetry cannot start. -/
inductive TelemetryError where
  | metrics (reason : String)
  | logging (reason : String)
  | settings (reason : String)
deriving DecidableEq

/-- The text of the error. -/
def TelemetryError.message : TelemetryError → String
  | metrics r => "Failed to initialize metrics: " ++ r
  | logging r => "Failed to initialize logging: " ++ r
  | settings r => "Invalid configuration: " ++ r

/-- What a process has when telemetry starts: whether a log or a recorder of
metrics is in place, and the filter that its environment sets. -/
structure Host where
  hasLog : Bool
  hasRecorder : Bool
  filter? : Option String

namespace Host

/-- The filter of the log: that of the environment, if it is respected and one,
or else the level of the settings. -/
def logFilter (p : Host) (s : LogSettings) : Except TelemetryError String :=
  let own : Except TelemetryError String :=
    if isFilter s.level then .ok s.level else .error (.logging "Invalid log level")
  if s.respectEnvironment then
    match p.filter? with
    | some f => if isFilter f then .ok f else own
    | none => own
  else own

/-- Starts the log. -/
def startLog (p : Host) (s : LogSettings) : Except TelemetryError Host :=
  if !s.enabled then .ok p
  else
    match p.logFilter s with
    | .error e => .error e
    | .ok _ =>
      if p.hasLog then .error (.logging "a log is in place") else .ok { p with hasLog := true }

/-- Starts the metrics. -/
def startMetrics (p : Host) (s : MetricsSettings) : Except TelemetryError Host :=
  if !s.enabled then .ok p
  else if s.durationBuckets.isEmpty then
    .error (.settings "metrics duration buckets must not be empty")
  else if p.hasRecorder then .error (.metrics "a recorder is in place")
  else .ok { p with hasRecorder := true }

/-- Starts the log and the metrics. -/
def start (p : Host) (s : TelemetrySettings) : Except TelemetryError Host :=
  match p.startLog s.logging with
  | .error e => .error e
  | .ok p => p.startMetrics s.metrics

end Host

end RequestBinding
