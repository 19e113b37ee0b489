import AlarmMesh.Metric.Catalog
import AlarmMesh.Radio.Code
import AlarmMesh.Radio.FrameError

/-!
# Counting

A `Counter` is one countable occurrence: a counter metric with the values of its labels.  A
`Tally` is what has occurred so far, latest first; how often a counter occurs in it is the
counter's value.
-/

namespace AlarmMesh.Metric

/-- The two directions of a link. -/
inductive Direction where
  /-- From the radio module. -/
  | receive
  /-- To the radio module. -/
  | transmit
  deriving DecidableEq, Repr

/-- The two classes of pending record. -/
inductive RecordClass where
  | fault
  | alarm
  deriving DecidableEq, Repr

/-- What can be counted. -/
inductive Counter where
  /-- A frame was read from the radio module. -/
  | frameReceived
  /-- A frame was written to the radio module. -/
  | frameSent
  /-- An escaped frame did not fit its buffer. -/
  | sendOverflow
  /-- A read or a write failed. -/
  | ioError (direction : Direction)
  /-- No buffer was free. -/
  | poolExhausted
  /-- A frame was handled. -/
  | frameHandled (code : UInt8)
  /-- A report repeated the last sequence number. -/
  | duplicate
  /-- A frame could not be read. -/
  | frameDropped (reason : Radio.FrameError.Reason)
  /-- A command was given up because no buffer was free. -/
  | sendDeferred
  /-- A missing-node test ended. -/
  | scanCompleted
  /-- A device was removed from the shadow. -/
  | deviceDeleted
  /-- A device was added to the shadow. -/
  | deviceRegistered
  /-- A pending record ran out of time. -/
  | pendingTimeout (record : RecordClass)
  /-- A fault event was written. -/
  | faultEvent
  /-- An alarm event was written. -/
  | alarmEvent
  deriving DecidableEq, Repr

namespace Counter

/-- The metric that a counter belongs to. -/
def metric : Counter → Metric
  | frameReceived => framesReceived
  | frameSent => framesSent
  | sendOverflow => Metric.sendOverflow
  | ioError _ => ioErrors
  | poolExhausted => Metric.poolExhausted
  | frameHandled _ => framesHandled
  | duplicate => duplicates
  | frameDropped _ => framesDropped
  | sendDeferred => Metric.sendDeferred
  | scanCompleted => scansCompleted
  | deviceDeleted => devicesDeleted
  | deviceRegistered => devicesRegistered
  | pendingTimeout _ => pendingTimeouts
  | faultEvent => faultEvents
  | alarmEvent => alarmEvents

/-- The values of the metric's labels. -/
def labelValues : Counter → List String
  | ioError .receive => ["rx"]
  | ioError .transmit => ["tx"]
  | frameHandled code => [Radio.Code.nameOf code]
  | frameDropped reason => [reason.label]
  | pendingTimeout .fault => ["fault"]
  | pendingTimeout .alarm => ["alarm"]
  | _ => []

/-- The metric's name, followed by its labels in braces if it has any. -/
def key (counter : Counter) : String :=
  match counter.metric.labels.zip counter.labelValues with
  | [] => counter.metric.name
  | labels =>
    counter.metric.name ++ "\x7b"
      ++ String.intercalate "," (labels.map fun label => label.1 ++ "=" ++ label.2) ++ "\x7d"

end Counter

/-- What has been counted, latest first. -/
abbrev Tally := List Counter

/-- The value of a counter. -/
def Tally.value (tally : Tally) (counter : Counter) : Nat := List.count counter tally

end AlarmMesh.Metric
