import AlarmMesh.Config.Reader

/-!
# The command line

* `Request.parse` — what the arguments ask for;
* `Options.settings` — the settings to run with, given what the configuration file holds;
* `Options.address` — where the radio module is reached, split by `Address.parse?`.
-/

namespace AlarmMesh.CommandLine

/-- The options that take a value. -/
inductive Setting where
  /-- The configuration file. -/
  | config
  /-- The address of the radio module. -/
  | connect
  /-- How much is told about the run. -/
  | logLevel
  /-- How long learn mode lasts. -/
  | learnTimeout
  deriving DecidableEq, Repr

namespace Setting

/-- The long name of an option. -/
def flag : Setting → String
  | config => "--config"
  | connect => "--connect"
  | logLevel => "--log-level"
  | learnTimeout => "--learn-timeout"

/-- How the usage text shows the value of an option. -/
def placeholder : Setting → String
  | config => "<CONFIG>"
  | connect => "<CONNECT>"
  | logLevel => "<LOG_LEVEL>"
  | learnTimeout => "<LEARN_TIMEOUT>"

/-- Every option that takes a value. -/
def all : List Setting := [config, connect, logLevel, learnTimeout]

/-- The option that an argument names. -/
def ofArgument? (argument : String) : Option Setting :=
  if argument = "-c" then some config else all.find? fun setting => setting.flag = argument

end Setting

/-- What the arguments ask for. -/
structure Options where
  config : Option String := none
  connect : Option String := none
  logLevel : Option String := none
  /-- Start in learn mode. -/
  learn : Bool := false
  learnTimeout : Option Nat := none
  deriving DecidableEq, Repr

/-- What is to be done. -/
inductive Request where
  | run (options : Options)
  | help
  | version
  deriving DecidableEq, Repr

/-- What is wrong with the arguments. -/
inductive UsageError where
  | unexpected (argument : String)
  | missingValue (setting : Setting)
  | repeated (option : String)
  | invalid (setting : Setting) (value : String)
  deriving DecidableEq, Repr

/-- The error in words. -/
def UsageError.message : UsageError → String
  | unexpected argument => "unexpected argument '" ++ argument ++ "' found"
  | missingValue setting =>
    "a value is required for '" ++ setting.flag ++ " " ++ setting.placeholder
      ++ "' but none was supplied"
  | repeated option => "the argument '" ++ option ++ "' cannot be used multiple times"
  | invalid setting value =>
    "invalid value '" ++ value ++ "' for '" ++ setting.flag ++ " " ++ setting.placeholder ++ "'"

/-! ## Reading the arguments -/

/-- A number of 32 bits in decimal digits. -/
def wordOf? (value : String) : Option Nat := do
  guard (!value.isEmpty)
  let n ← Text.number? 10 value.toList
  guard (n < 0x100000000)
  return n

/-- The options with one more value, or what is wrong with it. -/
def Options.with? (options : Options) (setting : Setting) (value : String) :
    Except UsageError Options :=
  let once (old : Option String) (new : Options) : Except UsageError Options :=
    if old.isSome then .error (.repeated (setting.flag ++ " " ++ setting.placeholder)) else .ok new
  match setting with
  | .config => once options.config { options with config := some value }
  | .connect => once options.connect { options with connect := some value }
  | .logLevel => once options.logLevel { options with logLevel := some value }
  | .learnTimeout =>
    match wordOf? value with
    | some n => once (options.learnTimeout.map toString) { options with learnTimeout := some n }
    | none => .error (.invalid setting value)

/-- An argument as the words that it stands for: a value may be joined to a long option by an
equals sign, and to a short one as it is. -/
def words (argument : String) : List String :=
  match argument.toList with
  | '-' :: '-' :: name =>
    match name.dropWhile (· != '=') with
    | [] => [argument]
    | _ :: value => [String.ofList ('-' :: '-' :: name.takeWhile (· != '=')), String.ofList value]
  | '-' :: 'c' :: first :: rest =>
    ["-c", String.ofList (if first = '=' then rest else first :: rest)]
  | _ => [argument]

/-- What a list of words asks for on top of `options`. -/
def readWords (options : Options) : List String → Except UsageError Request
  | [] => .ok (.run options)
  | [word] =>
    match word, Setting.ofArgument? word with
    | _, some setting => .error (.missingValue setting)
    | "--learn", none =>
      if options.learn then .error (.repeated word) else .ok (.run { options with learn := true })
    | "--help", none | "-h", none => .ok .help
    | "--version", none | "-V", none => .ok .version
    | _, none => .error (.unexpected word)
  | word :: value :: rest =>
    match word, Setting.ofArgument? word with
    | _, some setting =>
      match options.with? setting value with
      | .ok options => readWords options rest
      | .error error => .error error
    | "--learn", none =>
      if options.learn then .error (.repeated word)
      else readWords { options with learn := true } (value :: rest)
    | "--help", none | "-h", none => .ok .help
    | "--version", none | "-V", none => .ok .version
    | _, none => .error (.unexpected word)

/-- What the arguments ask for. -/
def Request.parse (arguments : List String) : Except UsageError Request :=
  readWords {} (arguments.flatMap words)

/-- How the program is used. -/
def usage : String :=
  "Gateway between a radio mesh of alarms and a device shadow\n\n"
    ++ "Usage: alarm-mesh [OPTIONS]\n\n"
    ++ "Options:\n"
    ++ "  -c, --config <CONFIG>                YAML configuration file\n"
    ++ "      --connect <CONNECT>              Radio module address (host:number),\n"
    ++ "                                       overriding the configuration\n"
    ++ "      --log-level <LOG_LEVEL>          How much is told: off, error, warn, info,\n"
    ++ "                                       debug or trace [default: info]\n"
    ++ "      --learn                          Start in learn mode\n"
    ++ "      --learn-timeout <LEARN_TIMEOUT>  Seconds before learn mode turns itself off\n"
    ++ "                                       [default: 300]\n"
    ++ "  -h, --help                           Print help\n"
    ++ "  -V, --version                        Print version"

/-! ## From options to a run -/

/-- Why a run cannot start or go on. -/
inductive RunError where
  | settings (error : Config.ConfigError)
  | noAddress
  /-- Nobody answers at an address. -/
  | unreachable (address reason : String)
  deriving DecidableEq, Repr

/-- The error in words. -/
def RunError.message : RunError → String
  | settings error => error.message
  | noAddress =>
    "no radio module address; use --connect or set \x60connect\x60 in the configuration"
  | unreachable address reason => "failed to connect to " ++ address ++ ": " ++ reason

/-- Where the radio module is reached: a host, and the number of its service there. -/
structure Address where
  host : String
  service : UInt16
  deriving DecidableEq, Repr

/-- The address that a text writes: the service follows the last colon, and a host with colons
stands in brackets. -/
def Address.parse? (text : String) : Option Address := do
  let behind := text.toList.reverse
  let number ← wordOf? (String.ofList (behind.takeWhile (· != ':')).reverse)
  guard (number < 65536)
  let host ← (behind.dropWhile (· != ':')).tail?
  match host.head?, host.getLast? with
  | some ']', some '[' => some ⟨String.ofList (host.drop 1).reverse.tail, UInt16.ofNat number⟩
  | some _, _ => some ⟨String.ofList host.reverse, UInt16.ofNat number⟩
  | none, _ => none

namespace Options

/-- Seconds before learn mode turns itself off. -/
def learnSeconds (options : Options) : Nat := options.learnTimeout.getD 300

/-- Nothing but errors is to be told. -/
def isQuiet (options : Options) : Bool :=
  ["off", "error", "warn"].contains (options.logLevel.getD "info")

/-- The checked settings to run with: those of the configuration file if there is one, then what
the environment overrides, then the address among the arguments. -/
def settings (options : Options) (content period : Option String) :
    Except Config.ConfigError Config.Settings := do
  let base ← match options.config with
    | some _ => Config.Settings.load content period
    | none => .ok {}
  let base ← base.overridden period
  let settings := { base with connect := options.connect <|> base.connect }
  settings.check
  return settings

end Options

end AlarmMesh.CommandLine
