import AlarmMesh.Gateway.Control
import AlarmMesh.Gateway.Correlator
import AlarmMesh.Gateway.Discovery.Member
import AlarmMesh.Gateway.Discovery.Request

/-!
# The engine

The engine deals with one input at a time: a received frame, an operation, or a timer.

* `start` — puts the gateway into the shadow and starts discovery;
* `receive` — reads a frame and hands the report to discovery or to the pending records;
* `control` — carries an operation out; `applyDeltas` reads wishes as operations;
* `fire` — deals with a timer, `fireDue` with all that are due;
* `run` — deals with a list of messages.
-/

namespace AlarmMesh.Gateway

open Radio (Command DeviceId Report)
open Shadow (Mode Property Value)

/-- The engine. -/
structure Engine where
  site : Site
  network : Network
  incidents : Incidents
  deriving Repr

namespace Engine

/-- An engine that has not been started. -/
def ofSettings (settings : Config.Settings) (site : Site) : Engine :=
  { site := site
    network := { settings := settings.discovery }
    incidents := { settings := settings.events } }

/-- Change the site alone. -/
def onSite (engine : Engine) (f : Site → Site) : Engine := { engine with site := f engine.site }

/-- Let discovery do something. -/
def onNetwork (engine : Engine) (f : Discovery → Discovery) : Engine :=
  let d := f { toNetwork := engine.network, site := engine.site }
  { engine with network := d.toNetwork, site := d.site }

/-- Do something with the pending records. -/
def onIncidents (engine : Engine) (f : Correlator → Correlator) : Engine :=
  let c := f { toIncidents := engine.incidents, site := engine.site }
  { engine with incidents := c.toIncidents, site := c.site }

/-- Report a property of the gateway. -/
def report (engine : Engine) (property : Property) (value : Value) : Engine :=
  engine.onSite fun site => site.report .gateway property value

/-- Send a command, or give it up. -/
def transmit (engine : Engine) (command : Command) : Engine :=
  engine.onSite fun site => site.transmit command

/-! ## The start -/

/-- What the gateway reports from the beginning, unless it reports something else. -/
def initialValues : List (Property × Value) :=
  [(.testModeCommand, .ofNat 0), (.testModeFlush, .bool false), (.learnCommand, .ofNat 0),
    (.learnTimeout, .ofNat 0), (.leaveCommand, .ofNat 0), (.inNetwork, .bool false),
    (.deleteAllCommand, .ofNat 0), (.sounderTestCommand, .ofNat 0), (.silenceAllCommand, .ofNat 0),
    (.locateCommand, .ofNat 0)]

/-- The wishes that the gateway is told about. -/
def subscriptions : List Property :=
  [.testModeCommand, .learnCommand, .leaveCommand, .deleteAllCommand, .mode, .sounderTestCommand,
    .silenceAllCommand, .locateCommand]

/-- Put the gateway into the shadow, if it is not there. -/
def registerGateway (site : Site) : Site :=
  if site.platform.isRegistered .gateway then site
  else site.after (site.platform.register .gateway (Device.flagged Radio.gatewayPriority))

/-- Report a value of the gateway unless it reports one. -/
def reportInitial (site : Site) (entry : Property × Value) : Site :=
  if (site.reported .gateway entry.1).isNone then site.report .gateway entry.1 entry.2 else site

/-- Start the engine. -/
def start (engine : Engine) : Engine :=
  let engine := engine.onSite fun site => initialValues.foldl reportInitial (registerGateway site)
  let engine := engine.report .mode Mode.running.value
  let engine := engine.onSite fun site =>
    subscriptions.foldl (fun site => site.subscribe .gateway) site
  engine.onNetwork Discovery.start

/-! ## Received frames -/

/-- Whether a report repeats the last sequence number of its device, which is remembered of every
report of a registered device. -/
def checkSequence (engine : Engine) (id : DeviceId) (seq : UInt8) : Bool × Engine :=
  let last := (engine.site.reported id .lastSequence).bind Value.asByte
  let engine :=
    if engine.site.platform.isRegistered id then
      engine.onSite fun site => site.report id .lastSequence (.ofNat seq.toNat)
    else engine
  (last = some seq, engine)

/-- Whether a report is a repetition; one without a sequence number never is. -/
def checkRepetition (engine : Engine) (report : Report) : Bool × Engine :=
  match report.sequence with
  | some (id, seq) => engine.checkSequence id seq
  | none => (false, engine)

/-- Hand a report, and the frame that it came in, to the part of the gateway that it is for. -/
def dispatch (engine : Engine) (report : Report) (frame : List UInt8) : Engine :=
  match report with
  | .ack | .nack | .remoteIdNotice => engine
  | .statusRequest => engine.transmit .gatewayIdent
  | .sidMap map => engine.onNetwork fun d => d.receiveSidMap map
  | .missingNodes map => engine.onNetwork fun d => d.receiveMissing map
  | .sidMapUpdate map => engine.onNetwork fun d => d.receiveSidMapUpdate map
  | .remoteStatus status => engine.onIncidents fun c => c.receiveRemoteStatus status
  | .rumourTarget _ _ => engine.onNetwork Discovery.receiveRumourTarget
  | .deviceTested identity => engine.onNetwork fun d => d.receiveIdentity identity .unknown true
  | .remoteId identity => engine.onNetwork fun d => d.receiveRemoteId identity
  | .fault report => engine.onIncidents fun c => c.receiveFault report frame
  | .alarm report => engine.onIncidents fun c => c.receiveAlarm report frame
  | .slotValue report => engine.onIncidents fun c => c.receiveSlotValue report.id report.value
  | .faultDetails report =>
    engine.onIncidents fun c => c.receiveFaultDetails report.id report.faults
  | .alarmStop report => engine.onIncidents fun c => c.receiveAlarmStop report.id
  | .hush _ => engine.onIncidents Correlator.receiveHush
  | .locate report => engine.onIncidents fun c => c.receiveLocate report.id
  | .radioDiagnostic status => engine.onNetwork fun d => d.receiveDiagnostic status
  | .detectorFault report => engine.onIncidents fun c => c.receiveDetectorFault report.id

/-- Deal with a frame without escapes.  Frames that cannot be read and reports that repeat the
last one are counted and otherwise ignored. -/
def receive (engine : Engine) (frame : List UInt8) : Engine :=
  match Report.decode frame with
  | .error error => engine.onSite fun site => site.count (.frameDropped error.reason)
  | .ok report =>
    let engine := engine.onSite fun site => site.count (.frameHandled (frame.headD 0))
    match engine.checkRepetition report with
    | (true, engine) => engine.onSite fun site => site.count .duplicate
    | (false, engine) => engine.dispatch report frame

/-! ## Operations -/

/-- The priority byte that a device was registered with: its type without the mark of mesh
devices, if that is a byte. -/
def priorityOf (site : Site) (id : DeviceId) : Option UInt8 :=
  ((site.reported id .deviceType).bind Value.asWord).bind fun deviceType =>
    (Value.ofNat (Device.bare deviceType)).asByte

/-- Sound a test in the name of the first device, if it is known well enough. -/
def issueTest (engine : Engine) : Engine :=
  match engine.site.meshDevices.head? with
  | none => engine
  | some id =>
    match priorityOf engine.site id, (engine.site.reported id .modelValue).bind Value.asModel with
    | some priority, some model => engine.transmit (.deviceTest id model priority)
    | _, _ => engine

/-- Make a device show itself, if its slot is known. -/
def identify (engine : Engine) (id : DeviceId) : Engine :=
  match engine.site.slotOf id with
  | some sid => engine.transmit (.rumourTarget sid)
  | none => engine

/-! ## Wishes -/

/-- Start a test as wished for, if it is also said what becomes of missing devices. -/
def wishTest (engine : Engine) (wish : Value) : Engine :=
  match (engine.site.desired .gateway .testModeFlush).bind Value.asBool with
  | none => engine
  | some delete =>
    let engine := engine.report .mode Mode.testMode.value
    let engine := engine.onNetwork fun d => d.setTestMode true delete
    (engine.report .testModeCommand wish).report .testModeFlush (.bool delete)

/-- How long learn mode is wished to last. -/
def wishedTimeout (site : Site) : Nat :=
  ((site.desired .gateway .learnTimeout).bind Value.asWord).getD 0

/-- Turn learn mode on if it is wished for with a limit, or else off. -/
def wishLearn (engine : Engine) (wish : Value) : Engine :=
  let seconds := wishedTimeout engine.site
  if (engine.site.desired .gateway .mode).bind Mode.ofValue? = some .learning ∧ seconds ≠ 0 then
    let engine := engine.onNetwork fun d => d.setLearnMode true seconds
    (engine.report .learnCommand wish).report .learnTimeout (.ofNat seconds)
  else
    (engine.report .learnCommand wish).onNetwork fun d => d.setLearnMode false 0

/-- Go back to running, if that is wished for. -/
def wishMode (engine : Engine) (wish : Value) : Engine :=
  if Mode.ofValue? wish = some .running then
    match (engine.site.reported .gateway .mode).bind Mode.ofValue? with
    | some .learning => engine.onNetwork fun d => d.setLearnMode false 0
    | some .testMode => engine.onNetwork fun d => d.setTestMode false false
    | _ => engine
  else engine

/-- A wish about the gateway. -/
def applyGatewayDelta (engine : Engine) (property : Property) (wish : Value) : Engine :=
  match property with
  | .testModeCommand => engine.wishTest wish
  | .learnCommand => engine.wishLearn wish
  | .mode => engine.wishMode wish
  | .leaveCommand => engine.onNetwork Discovery.leaveNetwork
  | .deleteAllCommand => engine.onNetwork Discovery.flushAll
  | .sounderTestCommand => engine.issueTest.report .sounderTestCommand wish
  | .silenceAllCommand => (engine.transmit .hush).report .silenceAllCommand wish
  | .locateCommand => (engine.transmit .locate).report .locateCommand wish
  | _ => engine

/-- A wish about another device. -/
def applyDeviceDelta (engine : Engine) (id : DeviceId) (property : Property) (wish : Value) :
    Engine :=
  match property with
  | .mute =>
    match wish.asBool with
    | some mute =>
      (engine.transmit (.sounderEnable id !mute)).onSite fun site =>
        site.report id .mute (.bool mute)
    | none => engine
  | .identifyCommand =>
    (engine.identify id).onSite fun site => site.report id .identifyCommand wish
  | .flushCommand =>
    if wish.asBool = some true then engine.onNetwork fun d => d.flush id else engine
  | _ => engine

/-- A wish. -/
def applyDelta (engine : Engine) (delta : Delta) : Engine :=
  if delta.device.isGateway then engine.applyGatewayDelta delta.property delta.value
  else engine.applyDeviceDelta delta.device delta.property delta.value

/-- The wish is about a property of the gateway. -/
def concerns (property : Property) (delta : Delta) : Bool :=
  delta.device.isGateway && delta.property = property

/-- Wishes that changed together, in order.  A wish for learn mode also says what becomes of the
gateway's mode, so a wish for the mode beside it is passed over. -/
def applyDeltas (engine : Engine) (deltas : List Delta) : Engine :=
  let learns := deltas.any (concerns .learnCommand)
  (deltas.filter fun delta => !(learns && concerns .mode delta)).foldl applyDelta engine

/-- Carry an operation out. -/
def control (engine : Engine) (operation : Control) : Engine :=
  match operation with
  | .beginScan delete => engine.onNetwork fun d => d.setTestMode true delete
  | .stopScan => engine.onNetwork fun d => d.setTestMode false false
  | .issueTest => engine.issueTest
  | .learn enabled seconds => engine.onNetwork fun d => d.setLearnMode enabled seconds
  | .leave => engine.onNetwork Discovery.leaveNetwork
  | .flushAll => engine.onNetwork Discovery.flushAll
  | .flush id => engine.onNetwork fun d => d.flush id
  | .identify id => engine.identify id
  | .silenceAll => engine.transmit .hush
  | .locate => engine.transmit .locate
  | .sounder id enabled => engine.transmit (.sounderEnable id enabled)
  | .deltas changes => engine.applyDeltas changes

/-! ## Timers -/

/-- Deal with a timer. -/
def fire (engine : Engine) (kind : TimerKind) : Engine :=
  match kind with
  | .faultTimeout _ | .alarmTimeout _ => engine.onIncidents fun c => c.onTimeout kind
  | _ => engine.onNetwork fun d => d.onTimer kind

/-- Take out the next timer that is due. -/
def popDue (engine : Engine) : Option TimerKind × Engine :=
  let popped := engine.site.popDue
  (popped.1, { engine with site := popped.2 })

/-- Deal with up to `rounds` timers that are due, one after the other. -/
def fireUpTo : (rounds : Nat) → Engine → Engine
  | 0, engine => engine
  | rounds + 1, engine =>
    match engine.popDue with
    | (none, _) => engine
    | (some kind, engine) => fireUpTo rounds (engine.fire kind)

/-- More timers than can fire at one time: the live ones, and those that they start without delay,
one for each question to a slot and for each update of the map. -/
def fireLimit (engine : Engine) : Nat :=
  4 * (engine.site.timers.size + engine.network.settings.updateDeleteCount + 256 * 64)

/-- Deal with every timer that is due. -/
def fireDue (engine : Engine) : Engine := engine.fireUpTo engine.fireLimit

/-! ## Messages -/

/-- Deal with a message.  The buffer of a frame is released afterwards. -/
def handle (engine : Engine) (message : Message) : Engine :=
  match message with
  | .received frame => (engine.receive frame.content).onSite fun site => site.release frame
  | .control operation => engine.control operation
  | .shutdown => engine

/-- Give back the buffers of messages that nobody deals with. -/
def discard (engine : Engine) (messages : List Message) : Engine :=
  (messages.filterMap Message.buffer?).foldl
    (fun engine frame => engine.onSite fun site => site.release frame) engine

/-- Deal with messages until a shutdown or until there are no more, and before each one with the
timers that are due. -/
def run : List Message → Engine → Engine
  | [], engine => engine.fireDue
  | .shutdown :: rest, engine => engine.fireDue.discard rest
  | message :: rest, engine => run rest (engine.fireDue.handle message)

end Engine

end AlarmMesh.Gateway
