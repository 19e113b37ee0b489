import AlarmMesh.Time.Duration

/-!
# Settings

What the gateway is set to, with the values that it has when nothing else is asked for, and
`Settings.check`: what settings must fulfil to be used.
-/

namespace AlarmMesh.Config

/-- Settings of the link and its buffers. -/
structure LinkSettings where
  /-- Slots in the buffer pool. -/
  poolSlots : Nat := 10
  /-- Time between attempts to take a buffer, in milliseconds. -/
  acquireRetry : Nat := 1000
  /-- Failed attempts between warnings. -/
  acquireWarnEvery : Nat := 10
  /-- Time between looks at a quiet link, in milliseconds. -/
  readPoll : Nat := 100
  /-- Pause after a failure of the link, in milliseconds. -/
  errorBackoff : Nat := 500
  deriving DecidableEq, Repr

/-- Settings of network membership and of the missing-node test. -/
structure DiscoverySettings where
  /-- From the start to the first request for the SID map. -/
  startupFetch : Duration := .ofSeconds 3
  /-- Between requests for the SID map. -/
  normalRefresh : Duration := .ofSeconds 60
  /-- The same in learn mode. -/
  learnRefresh : Duration := .ofSeconds 5
  /-- Between missing-node tests. -/
  missingTestPeriod : Duration := .ofSeconds 64800
  /-- Least time between the probes of one test. -/
  minSpacing : Duration := .ofSeconds 30
  /-- How long a probe waits for an answer. -/
  replyTimeout : Duration := .ofSeconds 60
  /-- A test that takes longer is given up. -/
  maxTestDuration : Duration := .ofSeconds 360
  /-- Reports of a missing device that confirm that it is gone. -/
  requiredScans : Nat := 3
  /-- Between the updates that take missing devices out of the SID map. -/
  updateDeletePeriod : Duration := .ofSeconds 30
  /-- How many such updates are sent. -/
  updateDeleteCount : Nat := 3
  /-- How long an unknown device may take to say who it is. -/
  interrogationPeriod : Duration := .ofSeconds 60
  /-- How often an unknown device is asked. -/
  maxInterrogations : UInt8 := 5
  deriving DecidableEq, Repr

/-- Settings of fault and alarm events. -/
structure EventSettings where
  /-- How long a fault or an alarm waits for its follow-up. -/
  transactionTimeout : Duration := .ofSeconds 30
  deriving DecidableEq, Repr

/-- All settings. -/
structure Settings where
  /-- Where the radio module is reached. -/
  connect : Option String := none
  link : LinkSettings := {}
  discovery : DiscoverySettings := {}
  events : EventSettings := {}
  deriving DecidableEq, Repr

instance : Inhabited Settings := ⟨{}⟩

/-! ## Errors -/

/-- The settings that may not be zero. -/
inductive Required where
  | poolSlots
  | requiredScans
  | updateDeleteCount
  | maxInterrogations
  | transactionTimeout
  deriving DecidableEq, Repr

/-- Where the setting stands in a configuration. -/
def Required.path : Required → String
  | poolSlots => "link.pool_slots"
  | requiredScans => "discovery.required_scans"
  | updateDeleteCount => "discovery.update_delete_count"
  | maxInterrogations => "discovery.max_interrogations"
  | transactionTimeout => "events.transaction_timeout"

/-- What the setting has to be. -/
def Required.demand : Required → String
  | transactionTimeout => "must be non-zero"
  | _ => "must be at least 1"

/-- Why there are no settings. -/
inductive ConfigError where
  /-- The file cannot be read. -/
  | unreadable
  /-- The text is no configuration. -/
  | malformed
  /-- A text is not a duration. -/
  | invalidDuration (text : String)
  /-- A setting is zero that may not be. -/
  | zero (setting : Required)
  /-- Probes would follow one another no faster than answers time out. -/
  | spacing (least timeout : Duration)
  deriving DecidableEq, Repr

/-- The error in words. -/
def ConfigError.message : ConfigError → String
  | unreadable => "failed to read config"
  | malformed => "failed to parse config"
  | invalidDuration text =>
    "invalid duration '" ++ text ++ "' (expected e.g. 18h, 30m, 60s, 250ms)"
  | zero setting => "invalid value for " ++ setting.path ++ ": " ++ setting.demand
  | spacing least timeout =>
    "min_spacing (" ++ least.exactText ++ ") must be less than reply_timeout ("
      ++ timeout.exactText ++ ")"

/-! ## Checking -/

/-- The settings of `settings` that may not be zero and are. -/
def DiscoverySettings.zeros (settings : DiscoverySettings) : List Required :=
  (if settings.requiredScans = 0 then [.requiredScans] else [])
    ++ (if settings.updateDeleteCount = 0 then [.updateDeleteCount] else [])
    ++ (if settings.maxInterrogations = 0 then [.maxInterrogations] else [])

/-- The first thing that is wrong with the settings of discovery. -/
def DiscoverySettings.check (settings : DiscoverySettings) : Except ConfigError Unit :=
  if settings.replyTimeout ≤ settings.minSpacing then
    .error (.spacing settings.minSpacing settings.replyTimeout)
  else
    match settings.zeros with
    | setting :: _ => .error (.zero setting)
    | [] => .ok ()

/-- The first thing that is wrong with the settings. -/
def Settings.check (settings : Settings) : Except ConfigError Unit := do
  if settings.link.poolSlots = 0 then throw (.zero .poolSlots)
  settings.discovery.check
  if settings.events.transactionTimeout.isZero then throw (.zero .transactionTimeout)

end AlarmMesh.Config
