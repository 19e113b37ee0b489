import AlarmMesh.Link.Pool
import AlarmMesh.Shadow.Platform
import AlarmMesh.Time.TimerQueue

/-!
# The site

What every part of the gateway works on: the shadow, the buffers, the clock, the timers, the
commands sent so far and what was counted.

* `takeBuffer` — takes a buffer of the pool, which has other users too;
* `send` — sends a command, unless no buffer is free for it;
* `reported`, `report` — the shadow, a failure being the same as nothing to read or to write;
* `schedule`, `cancel`, `restart` — timers, the last two by the place that holds their handle;
* `popDue` — the next timer that is due.
-/

namespace AlarmMesh.Gateway

open Radio (Command DeviceId)
open Shadow (Platform Property Value)

/-- What every part of the gateway works on. -/
structure Site where
  platform : Platform := {}
  pool : Link.Pool
  clock : Clock
  timers : TimerQueue := {}
  /-- The commands sent, latest first. -/
  sent : List Command := []
  tally : Metric.Tally := []
  /-- The gauge of occupied slots without a known device, once it was set. -/
  unknownGauge : Option Nat := none
  /-- For the attempts to take a buffer that come next, whether the other users of the pool hold
  all that are free here at that moment; behind the end of the list they do not. -/
  contention : List Bool := []
  deriving Repr

namespace Site

/-- Count an occurrence. -/
def count (site : Site) (counter : Metric.Counter) : Site :=
  { site with tally := counter :: site.tally }

/-! ## Buffers -/

/-- An attempt to take a buffer now finds a free one. -/
def hasBuffer (site : Site) : Bool := !site.contention.headD false && !site.pool.free.isEmpty

/-- Take a buffer from the pool, which has no free one while other users hold them all. -/
def takeBuffer (site : Site) (take : Link.Pool → Option Link.Buffer × Link.Pool) :
    Option Link.Buffer × Site :=
  let contention := site.contention.tail
  if site.contention.headD false then
    let taken := take { site.pool with free := [] }
    (taken.1, { site with
      pool := { taken.2 with free := site.pool.free }, contention := contention })
  else
    let taken := take site.pool
    (taken.1, { site with pool := taken.2, contention := contention })

/-! ## Sending -/

/-- Send a command in a buffer of its own, which is free again afterwards.  Gives whether there
was a buffer for it. -/
def send (site : Site) (command : Command) : Bool × Site :=
  match site.takeBuffer fun pool => pool.acquireFor command with
  | (some buffer, site) =>
    (true, { site with pool := site.pool.release buffer, sent := command :: site.sent })
  | (none, site) => (false, site.count .sendDeferred)

/-- Send a command, or give it up if there is no buffer for it. -/
def transmit (site : Site) (command : Command) : Site := (site.send command).2

/-- Give a buffer back. -/
def release (site : Site) (buffer : Link.Buffer) : Site :=
  { site with pool := site.pool.release buffer }

/-! ## The shadow -/

/-- The reported value of a property, if it can be read. -/
def reported (site : Site) (id : DeviceId) (property : Property) : Option Value :=
  (site.platform.getReported id property).toOption

/-- The desired value of a property, if it can be read. -/
def desired (site : Site) (id : DeviceId) (property : Property) : Option Value :=
  (site.platform.getDesired id property).toOption

/-- The site after a call to the shadow, which stays as it was if the call fails. -/
def after (site : Site) (outcome : Except Shadow.StoreError Platform) : Site :=
  match outcome with
  | .ok platform => { site with platform := platform }
  | .error _ => site

/-- Report a value, if that is possible. -/
def report (site : Site) (id : DeviceId) (property : Property) (value : Value) : Site :=
  site.after (site.platform.setReported id property value)

/-- Report values up to the first that cannot be reported. -/
def reportGroup (site : Site) (id : DeviceId) (values : List (Property × Value)) : Site :=
  { site with platform := (site.platform.reportGroup id values).2 }

/-- Ask to be told about wishes for a property, if that is possible. -/
def subscribe (site : Site) (id : DeviceId) (property : Property) : Site :=
  site.after (site.platform.subscribe id property)

/-- Every registered device, by ascending address; none if they cannot be listed. -/
def devices (site : Site) : List DeviceId := site.platform.devices.toOption.getD []

/-- Every registered device except the gateway, by ascending address. -/
def meshDevices (site : Site) : List DeviceId := site.devices.filter fun id => !id.isGateway

/-- The slot that a device reports. -/
def slotOf (site : Site) (id : DeviceId) : Option UInt8 := site.platform.slotOf id

/-- The slots that mesh devices report. -/
def knownSids (site : Site) : Radio.SidMap := .ofList (site.meshDevices.filterMap site.slotOf)

/-! ## Timers -/

/-- Start a timer. -/
def schedule (site : Site) (kind : TimerKind) (delay : Duration) : TimerHandle × Site :=
  let scheduled := site.timers.schedule site.clock.now kind delay
  (scheduled.1, { site with timers := scheduled.2 })

/-- Stop the timer with a handle, if there is one. -/
def cancel (site : Site) (handle : Option TimerHandle) : Site :=
  match handle with
  | some handle => { site with timers := (site.timers.cancel handle).2 }
  | none => site

/-- Start a timer in place of the one with a handle. -/
def restart (site : Site) (handle : Option TimerHandle) (kind : TimerKind) (delay : Duration) :
    TimerHandle × Site :=
  (site.cancel handle).schedule kind delay

/-- Take out the next timer that is due. -/
def popDue (site : Site) : Option TimerKind × Site :=
  let popped := site.timers.popExpired site.clock.now
  (popped.1.map Timer.kind, { site with timers := popped.2 })

end Site

end AlarmMesh.Gateway
