import AlarmMesh.Config.Settings
import AlarmMesh.Config.Yaml.Node

/-!
# Writing settings

Settings as a document, with every value in it: counts as numbers, durations in the largest unit
that gives a whole number.
-/

namespace AlarmMesh.Config

open Yaml (Node)

/-- A key. -/
def keyNode (key : String) : Node := .scalar true key

/-- A number. -/
def countNode (n : Nat) : Node := .scalar true (toString n)

/-- A duration. -/
def durationNode (d : Duration) : Node := .scalar false d.format

/-- A text, or nothing. -/
def textNode : Option String → Node
  | some text => .scalar false text
  | none => .scalar true "~"

/-- A section with its entries. -/
def sectionNode (entries : List (String × Node)) : Node :=
  .mapping (entries.map fun entry => (keyNode entry.1, entry.2))

/-- The link settings as a section. -/
def LinkSettings.toNode (settings : LinkSettings) : Node :=
  sectionNode
    [("pool_slots", countNode settings.poolSlots),
      ("acquire_retry_ms", countNode settings.acquireRetry),
      ("acquire_warn_every", countNode settings.acquireWarnEvery),
      ("read_poll_ms", countNode settings.readPoll),
      ("error_backoff_ms", countNode settings.errorBackoff)]

/-- The settings of discovery as a section. -/
def DiscoverySettings.toNode (settings : DiscoverySettings) : Node :=
  sectionNode
    [("startup_fetch", durationNode settings.startupFetch),
      ("normal_refresh", durationNode settings.normalRefresh),
      ("learn_refresh", durationNode settings.learnRefresh),
      ("missing_test_period", durationNode settings.missingTestPeriod),
      ("min_spacing", durationNode settings.minSpacing),
      ("reply_timeout", durationNode settings.replyTimeout),
      ("max_test_duration", durationNode settings.maxTestDuration),
      ("required_scans", countNode settings.requiredScans),
      ("update_delete_period", durationNode settings.updateDeletePeriod),
      ("update_delete_count", countNode settings.updateDeleteCount),
      ("interrogation_period", durationNode settings.interrogationPeriod),
      ("max_interrogations", countNode settings.maxInterrogations.toNat)]

/-- The settings of events as a section. -/
def EventSettings.toNode (settings : EventSettings) : Node :=
  sectionNode [("transaction_timeout", durationNode settings.transactionTimeout)]

/-- The settings as a document. -/
def Settings.toNode (settings : Settings) : Node :=
  sectionNode
    [("connect", textNode settings.connect),
      ("link", settings.link.toNode),
      ("discovery", settings.discovery.toNode),
      ("events", settings.events.toNode)]

end AlarmMesh.Config
