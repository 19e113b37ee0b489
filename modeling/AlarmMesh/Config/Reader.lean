import AlarmMesh.Config.Settings
import AlarmMesh.Config.Yaml.Reader

/-!
# Reading settings

A configuration is a YAML document with three sections and the address to connect to.  What it
leaves out keeps its usual value, and keys that mean nothing here are passed over.

* `Settings.ofNode?` — the settings that a document stands for;
* `Settings.parse` — the settings that a text writes;
* `Settings.overridden` — the settings with the period of missing-node tests taken from the
  environment;
* `Settings.load` — all of this for the content of a file, and the check of the result.
-/

namespace AlarmMesh.Config

open Yaml (Node)

/-! ## Single values -/

/-- The duration that a text writes. -/
def readDuration (text : String) : Except ConfigError Duration :=
  match Duration.parse? text with
  | some d => .ok d
  | none => .error (.invalidDuration (String.ofList (Text.trim text.toList)))

/-- A number below `bound`, which a document writes without quotes. -/
def countOf? (bound : Nat) (node : Node) : Option Nat := do
  let n ← node.unsigned?
  guard (n < bound)
  return n

/-- A number of 64 bits. -/
def longCount? : Node → Option Nat := countOf? 0x10000000000000000

/-- A number of 32 bits. -/
def wordCount? : Node → Option Nat := countOf? 0x100000000

/-- A number of eight bits. -/
def byteCount? (node : Node) : Option UInt8 := (countOf? 256 node).map UInt8.ofNat

/-- A duration: a number of seconds, or a text with a unit. -/
def durationOf? (node : Node) : Option Duration :=
  match node.unsigned?, node with
  | some seconds, _ => some (.ofSeconds seconds)
  | none, .scalar true "-0" => some (.ofSeconds 0)
  | none, .scalar _ text => Duration.parse? text
  | none, _ => none

/-- A text, however it is written; none within if nothing is meant. -/
def textOf? (node : Node) : Option (Option String) :=
  match node with
  | .scalar _ text => some (if node.isNull then none else some text)
  | _ => none

/-! ## Sections -/

/-- The text of a key. -/
def keyText? : Node → Option String
  | .scalar _ text => some text
  | _ => none

/-- The entries of a section by key.  A section without a value has none. -/
def section? : Node → Option (List (String × Node))
  | .scalar true "" => some []
  | .mapping entries => entries.mapM fun entry => (keyText? entry.1).map (·, entry.2)
  | _ => none

/-- One entry of a section at a time, each key that means something at most once. -/
def foldSection? {σ : Type} (keys : List String) (apply : σ → String → Node → Option σ)
    (initial : σ) (node : Node) : Option σ := do
  let entries ← section? node
  let known := entries.filter fun entry => keys.contains entry.1
  guard (known.map Prod.fst).Nodup
  known.foldlM (fun state entry => apply state entry.1 entry.2) initial

/-- The keys of the link settings. -/
def linkKeys : List String :=
  ["pool_slots", "acquire_retry_ms", "acquire_warn_every", "read_poll_ms", "error_backoff_ms"]

/-- One entry of the link settings. -/
def LinkSettings.with? (settings : LinkSettings) (key : String) (node : Node) :
    Option LinkSettings :=
  match key with
  | "pool_slots" => (longCount? node).map fun n => { settings with poolSlots := n }
  | "acquire_retry_ms" => (longCount? node).map fun n => { settings with acquireRetry := n }
  | "acquire_warn_every" => (wordCount? node).map fun n => { settings with acquireWarnEvery := n }
  | "read_poll_ms" => (longCount? node).map fun n => { settings with readPoll := n }
  | "error_backoff_ms" => (longCount? node).map fun n => { settings with errorBackoff := n }
  | _ => some settings

/-- The keys of the settings of discovery. -/
def discoveryKeys : List String :=
  ["startup_fetch", "normal_refresh", "learn_refresh", "missing_test_period", "min_spacing",
    "reply_timeout", "max_test_duration", "required_scans", "update_delete_period",
    "update_delete_count", "interrogation_period", "max_interrogations"]

/-- One entry of the settings of discovery. -/
def DiscoverySettings.with? (settings : DiscoverySettings) (key : String) (node : Node) :
    Option DiscoverySettings :=
  match key with
  | "startup_fetch" => (durationOf? node).map fun d => { settings with startupFetch := d }
  | "normal_refresh" => (durationOf? node).map fun d => { settings with normalRefresh := d }
  | "learn_refresh" => (durationOf? node).map fun d => { settings with learnRefresh := d }
  | "missing_test_period" =>
    (durationOf? node).map fun d => { settings with missingTestPeriod := d }
  | "min_spacing" => (durationOf? node).map fun d => { settings with minSpacing := d }
  | "reply_timeout" => (durationOf? node).map fun d => { settings with replyTimeout := d }
  | "max_test_duration" => (durationOf? node).map fun d => { settings with maxTestDuration := d }
  | "required_scans" => (wordCount? node).map fun n => { settings with requiredScans := n }
  | "update_delete_period" =>
    (durationOf? node).map fun d => { settings with updateDeletePeriod := d }
  | "update_delete_count" => (wordCount? node).map fun n => { settings with updateDeleteCount := n }
  | "interrogation_period" =>
    (durationOf? node).map fun d => { settings with interrogationPeriod := d }
  | "max_interrogations" => (byteCount? node).map fun n => { settings with maxInterrogations := n }
  | _ => some settings

/-- One entry of the settings of events. -/
def EventSettings.with? (settings : EventSettings) (key : String) (node : Node) :
    Option EventSettings :=
  match key with
  | "transaction_timeout" =>
    (durationOf? node).map fun d => { settings with transactionTimeout := d }
  | _ => some settings

namespace Settings

/-- One entry of a document. -/
def with? (settings : Settings) (key : String) (node : Node) : Option Settings :=
  match key with
  | "connect" => (textOf? node).map fun text => { settings with connect := text }
  | "link" =>
    (foldSection? linkKeys LinkSettings.with? {} node).map fun link =>
      { settings with link := link }
  | "discovery" =>
    (foldSection? discoveryKeys DiscoverySettings.with? {} node).map fun discovery =>
      { settings with discovery := discovery }
  | "events" =>
    (foldSection? ["transaction_timeout"] EventSettings.with? {} node).map fun events =>
      { settings with events := events }
  | _ => some settings

/-- The settings that a document stands for. -/
def ofNode? : Node → Option Settings :=
  foldSection? ["connect", "link", "discovery", "events"] with? {}

/-- The settings that a text writes.  A blank text leaves everything as usual. -/
def parse (text : String) : Except ConfigError Settings :=
  if text.toList.all Text.isBlank then .ok {}
  else
    match Yaml.read? text >>= ofNode? with
    | some settings => .ok settings
    | none => .error .malformed

/-- The settings with another period of missing-node tests, if one is given. -/
def overridden (settings : Settings) (period : Option String) : Except ConfigError Settings :=
  match period with
  | none => .ok settings
  | some text => do
    let period ← readDuration text
    return { settings with
      discovery := { settings.discovery with missingTestPeriod := period } }

/-- The name of that period in the environment. -/
def periodVariable : String := "testMissingNormalPeriod"

/-- The checked settings of a file, given its content and what the environment overrides. -/
def load (content : Option String) (period : Option String) : Except ConfigError Settings := do
  let text ← match content with
    | some text => .ok text
    | none => .error .unreadable
  let settings ← parse text
  let settings ← settings.overridden period
  settings.check
  return settings

end Settings

end AlarmMesh.Config
