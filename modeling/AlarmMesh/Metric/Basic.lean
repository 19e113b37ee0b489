/-!
# Metrics

A metric has a name, a kind, a description, perhaps a unit, and the keys of its labels.
`Metric.registration` is what a recorder is told about it.
-/

namespace AlarmMesh

namespace Metric

/-- The three kinds of metric. -/
inductive Kind where
  /-- Only ever grows. -/
  | counter
  /-- Goes up and down. -/
  | gauge
  /-- Keeps a distribution. -/
  | histogram
  deriving DecidableEq, Repr

/-- The kind in lower case. -/
def Kind.name : Kind → String
  | counter => "counter"
  | gauge => "gauge"
  | histogram => "histogram"

/-- The kind with a name in lower case. -/
def Kind.ofName? (name : String) : Option Kind :=
  [counter, gauge, histogram].find? fun kind => kind.name = name

/-- Units of measurement. -/
inductive Unit where
  | count
  | percent
  | seconds
  | milliseconds
  | microseconds
  | nanoseconds
  | tebibytes
  | gibibytes
  | mebibytes
  | kibibytes
  | bytes
  | terabitsPerSecond
  | gigabitsPerSecond
  | megabitsPerSecond
  | kilobitsPerSecond
  | bitsPerSecond
  | countPerSecond
  deriving DecidableEq, Repr

namespace Unit

/-- Every unit. -/
def all : List Unit :=
  [count, percent, seconds, milliseconds, microseconds, nanoseconds, tebibytes, gibibytes,
    mebibytes, kibibytes, bytes, terabitsPerSecond, gigabitsPerSecond, megabitsPerSecond,
    kilobitsPerSecond, bitsPerSecond, countPerSecond]

/-- The name that a recorder knows the unit by. -/
def name : Unit → String
  | count => "count"
  | percent => "percent"
  | seconds => "seconds"
  | milliseconds => "milliseconds"
  | microseconds => "microseconds"
  | nanoseconds => "nanoseconds"
  | tebibytes => "tebibytes"
  | gibibytes => "gibibytes"
  | mebibytes => "mebibytes"
  | kibibytes => "kibibytes"
  | bytes => "bytes"
  | terabitsPerSecond => "terabits_per_second"
  | gigabitsPerSecond => "gigabits_per_second"
  | megabitsPerSecond => "megabits_per_second"
  | kilobitsPerSecond => "kilobits_per_second"
  | bitsPerSecond => "bits_per_second"
  | countPerSecond => "count_per_second"

/-- The unit with a name. -/
def ofName? (name : String) : Option Unit := all.find? fun unit => unit.name = name

end Unit

end Metric

/-- A metric with its metadata. -/
structure Metric where
  name : String
  kind : Metric.Kind
  description : String := ""
  unit : Option Metric.Unit := none
  /-- Keys of the labels that go with a recorded value. -/
  labels : List String := []
  deriving DecidableEq, Repr

namespace Metric

/-- What a recorder is told about a metric; labels are not part of it. -/
structure Registration where
  kind : Kind
  name : String
  unit : Option Unit
  description : String
  deriving DecidableEq, Repr

/-- What the recorder is told about this metric. -/
def registration (metric : Metric) : Registration :=
  ⟨metric.kind, metric.name, metric.unit, metric.description⟩

end Metric

end AlarmMesh
