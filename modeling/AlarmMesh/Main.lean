import AlarmMesh.CommandLine
import AlarmMesh.Gateway.Service
import Std.Async.DNS
import Std.Async.Signal
import Std.Async.TCP
import Std.Async.Timer

/-!
# The program

Connects a gateway to a radio module and carries bytes and time between the two until it is
interrupted.
-/

namespace AlarmMesh.Main

open CommandLine (Address Options Request RunError)
open Gateway (Service)

/-- A connection. -/
abbrev Connection := Std.Async.TCP.Socket.Client

/-- What ends a wait. -/
inductive Event where
  | bytes (received : List UInt8)
  | closed
  | failed (reason : String)
  | quiet
  | interrupted

/-- The time. -/
def readClock : IO Clock := do
  let time ← Std.Time.Timestamp.now
  return { now := ← IO.monoNanosNow, unix := time.toSecondsSinceUnixEpoch.val }

/-- One socket address of a service. -/
def socketAddress (service : UInt16) : Std.Net.IPAddr → Std.Net.SocketAddress
  | .v4 host => .v4 ⟨host, service⟩
  | .v6 host => .v6 ⟨host, service⟩

/-- The result of an action, or its error in words. -/
def attempt {α : Type} (action : IO α) : IO (Except String α) := do
  try
    return .ok (← action)
  catch error =>
    return .error (toString error)

/-- Connect to one host. -/
def connectTo (host : Std.Net.SocketAddress) : IO Connection := do
  let connection ← Std.Async.TCP.Socket.Client.mk
  (connection.connect host).block
  connection.noDelay
  return connection

/-- Connect to the first host of an address that answers. -/
def connect (text : String) : IO (Except RunError Connection) := do
  let some address := Address.parse? text
    | return .error (.unreachable text "invalid socket address")
  match ← attempt (Std.Async.DNS.getAddrInfo address.host "").block with
  | .error reason => return .error (.unreachable text reason)
  | .ok hosts =>
    let mut reason := "no host found"
    for host in hosts do
      match ← attempt (connectTo (socketAddress address.service host)) with
      | .ok connection => return .ok connection
      | .error failure => reason := failure
    return .error (.unreachable text reason)

/-- What is received next. -/
def receiveNext (connection : Connection) : IO (Task Event) := do
  let received ← (connection.recv? Link.Arrival.readSize.toUInt64).asTask
  return received.run.map fun
    | .ok (some bytes) => .bytes bytes.data.toList
    | .ok none => .closed
    | .error error => .failed (toString error)

/-- Some milliseconds without anything else. -/
def quietFor (most : Nat) : IO (Task Event) := do
  let elapsed ← (Std.Async.sleep ⟨(most : Int)⟩).asTask
  return elapsed.run.map fun _ => .quiet

/-- The next interrupt. -/
def interruption : IO (Task Event) := do
  let waiter ← Std.Async.Signal.Waiter.mk .sigint false
  return (← waiter.wait).run.map fun _ => .interrupted

/-- Tell something about the run, unless only errors are to be told. -/
def tell (options : Options) (text : String) : IO Unit := do
  unless options.isQuiet do IO.eprintln text

/-- Send bytes, or tell why they cannot be sent. -/
def send (connection : Connection) (output : List UInt8) : IO Unit := do
  unless output.isEmpty do
    if let .error reason ← attempt (connection.send ⟨output.toArray⟩).block then
      IO.eprintln reason

/-- Carry bytes and time until an interrupt. -/
def serve (link : Config.LinkSettings) (connection : Connection) (interrupted : Task Event)
    (started : Service) : IO Unit := do
  let mut service := started
  let mut listening := true
  let mut outstanding : Option (Task Event) := none
  repeat
    service := (service.wake (← readClock)).receive []
    let (output, rest) := service.takeOutput
    service := rest
    send connection output
    if listening && outstanding.isNone && service.hasRoom then
      outstanding := some (← receiveNext connection)
    let quiet ← quietFor (service.pause (max 1 link.readPoll))
    match ← IO.waitAny (interrupted :: quiet :: outstanding.toList) with
    | .bytes received =>
      outstanding := none
      service := (service.wake (← readClock)).receive received
    | .closed =>
      outstanding := none
      listening := false
      IO.eprintln "peer closed the connection"
    | .failed reason =>
      outstanding := none
      IO.eprintln reason
      IO.sleep link.errorBackoff.toUInt32
    | .quiet => pure ()
    | .interrupted => break

/-- Run a gateway. -/
def run (options : Options) : IO (Except RunError Unit) := do
  let content ← match options.config with
    | some name => (·.toOption) <$> attempt (IO.FS.readFile name)
    | none => pure none
  match options.settings content (← IO.getEnv Config.Settings.periodVariable) with
  | .error error => return .error (.settings error)
  | .ok settings =>
    let some address := settings.connect | return .error .noAddress
    tell options ("Connecting to radio module at " ++ address)
    match ← connect address with
    | .error error => return .error error
    | .ok connection =>
      let interrupted ← interruption
      let learn := if options.learn then some options.learnSeconds else none
      serve settings.link connection interrupted (Service.start settings (← readClock) learn)
      connection.shutdown.block
      tell options "Gateway stopped"
      return .ok ()

end AlarmMesh.Main

/-- Do what the arguments ask for.  Gives 1 if a run fails and 2 if the arguments are wrong. -/
def main (arguments : List String) : IO UInt32 := do
  match AlarmMesh.CommandLine.Request.parse arguments with
  | .error error =>
    IO.eprintln ("error: " ++ error.message ++ "\n\n" ++ AlarmMesh.CommandLine.usage)
    return 2
  | .ok .help =>
    IO.println AlarmMesh.CommandLine.usage
    return 0
  | .ok .version =>
    IO.println "alarm-mesh 0.1.0"
    return 0
  | .ok (.run options) =>
    match ← AlarmMesh.Main.run options with
    | .ok _ => return 0
    | .error error =>
      IO.eprintln error.message
      return 1
