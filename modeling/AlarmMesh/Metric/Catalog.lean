import AlarmMesh.Metric.Basic

/-!
# The metrics of the gateway

Every metric that the gateway records, by area, and `Metric.all`, the order in which they are
registered.
-/

namespace AlarmMesh.Metric

/-! ## Link -/

/-- Frames read from the radio module. -/
def framesReceived : Metric :=
  { name := "wisafe.link.rx_frames", kind := .counter,
    description := "Frames received from the radio module", unit := some .count }

/-- Frames written to the radio module. -/
def framesSent : Metric :=
  { name := "wisafe.link.tx_frames", kind := .counter,
    description := "Frames transmitted to the radio module", unit := some .count }

/-- Frames dropped because their escaped form did not fit a buffer. -/
def sendOverflow : Metric :=
  { name := "wisafe.link.tx_overflow", kind := .counter,
    description := "Outbound frames dropped on escape overflow", unit := some .count }

/-- Failed reads and writes. -/
def ioErrors : Metric :=
  { name := "wisafe.link.io_errors", kind := .counter,
    description := "Transport read or write failures", unit := some .count,
    labels := ["direction"] }

/-- Length of received frames without their escapes. -/
def receivedFrameSize : Metric :=
  { name := "wisafe.link.rx_frame_size_bytes", kind := .histogram,
    description := "Unescaped received frame size", unit := some .bytes }

/-! ## Buffer pool -/

/-- Attempts to take a buffer from an empty pool. -/
def poolExhausted : Metric :=
  { name := "wisafe.pool.exhausted", kind := .counter,
    description := "Buffer acquire attempts that found no free slot", unit := some .count }

/-- Slots of the pool that are owned. -/
def poolInUse : Metric :=
  { name := "wisafe.pool.in_use", kind := .gauge,
    description := "Buffer pool slots currently owned", unit := some .count }

/-! ## Engine -/

/-- Frames handled, by command. -/
def framesHandled : Metric :=
  { name := "wisafe.engine.frames", kind := .counter,
    description := "Frames dispatched by command", unit := some .count, labels := ["command"] }

/-- Reports that repeat the last sequence number. -/
def duplicates : Metric :=
  { name := "wisafe.engine.duplicates", kind := .counter,
    description := "Messages dropped as sequence duplicates", unit := some .count }

/-- Frames that could not be read. -/
def framesDropped : Metric :=
  { name := "wisafe.engine.dropped_frames", kind := .counter,
    description := "Frames dropped by the decoder", unit := some .count, labels := ["reason"] }

/-- Commands given up because no buffer was free. -/
def sendDeferred : Metric :=
  { name := "wisafe.engine.send_deferred", kind := .counter,
    description := "Outbound commands abandoned on pool exhaustion", unit := some .count }

/-! ## Discovery -/

/-- Missing-node tests brought to an end. -/
def scansCompleted : Metric :=
  { name := "wisafe.discovery.scans_completed", kind := .counter,
    description := "Missing-node test sessions completed", unit := some .count }

/-- Devices removed from the shadow. -/
def devicesDeleted : Metric :=
  { name := "wisafe.discovery.devices_deleted", kind := .counter,
    description := "Devices removed from the shadow", unit := some .count }

/-- Devices added to the shadow. -/
def devicesRegistered : Metric :=
  { name := "wisafe.discovery.devices_registered", kind := .counter,
    description := "Devices newly registered in the shadow", unit := some .count }

/-- Occupied slots without a known device. -/
def unknownDevices : Metric :=
  { name := "wisafe.discovery.unknown_devices", kind := .gauge,
    description := "SIDs present in the network with no known device", unit := some .count }

/-! ## Events -/

/-- Pending faults and alarms that no answer came for. -/
def pendingTimeouts : Metric :=
  { name := "wisafe.events.pending_timeouts", kind := .counter,
    description := "Pending correlation records resolved without a reply", unit := some .count,
    labels := ["class"] }

/-- Fault events written to the shadow. -/
def faultEvents : Metric :=
  { name := "wisafe.events.faults", kind := .counter,
    description := "Fault events emitted", unit := some .count }

/-- Alarm events written to the shadow. -/
def alarmEvents : Metric :=
  { name := "wisafe.events.alarms", kind := .counter,
    description := "Alarm events emitted", unit := some .count }

/-- Every metric, in the order of registration. -/
def all : List Metric :=
  [framesReceived, framesSent, sendOverflow, ioErrors, receivedFrameSize, poolExhausted, poolInUse,
    framesHandled, duplicates, framesDropped, sendDeferred, scansCompleted, devicesDeleted,
    devicesRegistered, unknownDevices, pendingTimeouts, faultEvents, alarmEvents]

end AlarmMesh.Metric
