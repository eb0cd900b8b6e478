import TicketRouting.Json.Codec
import TicketRouting.Matching.Predicate
import TicketRouting.RoutingError
import TicketRouting.Text.Basic
/-!
The configuration: its sections, their defaults, what makes it valid, and its JSON form. Whatever is
not given takes its default. Logging has a level, which says how much is logged, and an output.
-/
namespace TicketRouting

open Json (Codec Form)

inductive LogLevel where
  | error
  | warn
  | info
  | debug
  | trace
deriving DecidableEq

namespace LogLevel

def all : List LogLevel := [error, warn, info, debug, trace]

def name : LogLevel → String
  | error => "ERROR"
  | warn => "WARN"
  | info => "INFO"
  | debug => "DEBUG"
  | trace => "TRACE"

/-- The level with a number from 1 to 5, which may have a plus sign and leading zeros. -/
def ofNumber? (text : List Char) : Option LogLevel :=
  let digits := match text with
    | '+' :: rest => rest
    | _ => text
  if digits.isEmpty || !digits.all Char.isDigit then none
  else
    match Text.digitsValue digits with
    | 0 => none
    | number + 1 => all[number]?

def ofText? (text : String) : Option LogLevel :=
  let content := Text.trim text.toList
  (ofNumber? content).or (all.find? fun level => Text.sameName level.name (String.ofList content))

def parse (text : String) : Except RoutingError LogLevel :=
  match ofText? text with
  | some level => .ok level
  | none => .error (.config ("Invalid log level: " ++ text))

end LogLevel

structure DatabaseConfig where
  databaseUrl : String := "sqlite://routing.db?mode=rwc"
  maxConnections : UInt32 := 5
deriving DecidableEq

structure PollingConfig where
  tickIntervalSeconds : UInt64 := 60
  defaultIntervalMinutes : UInt32 := 5
deriving DecidableEq

structure LogSettings where
  level : String := "info"
  json : Bool := false
deriving DecidableEq

structure RoutingConfig where
  database : DatabaseConfig := {}
  matching : MatchLimits := {}
  polling : PollingConfig := {}
  logging : LogSettings := {}
deriving DecidableEq

namespace RoutingConfig

/-- What is wrong with the configuration: the first fault in the order of its sections. -/
def fault? (config : RoutingConfig) : Option RoutingError :=
  if (Text.trim config.database.databaseUrl.toList).isEmpty then
    some (.config "database_url cannot be empty")
  else if config.database.maxConnections == 0 then
    some (.config "max_connections must be greater than 0")
  else if config.matching.patternBytes == 0 || config.matching.cacheBytes == 0 then
    some (.config "regex size limits must be greater than 0")
  else if config.matching.fieldBytes == 0 then
    some (.config "max_regex_input_len must be greater than 0")
  else if config.polling.tickIntervalSeconds == 0 then
    some (.config "tick_interval_secs must be greater than 0")
  else if config.polling.defaultIntervalMinutes == 0 then
    some (.config "default_interval_minutes must be greater than 0")
  else
    match LogLevel.parse config.logging.level with
    | .ok _ => none
    | .error fault => some fault

def validated (config : RoutingConfig) : Except RoutingError RoutingConfig :=
  match config.fault? with
  | none => .ok config
  | some fault => .error fault

end RoutingConfig

def DatabaseConfig.codec : Codec DatabaseConfig :=
  Form.start DatabaseConfig DatabaseConfig.mk
    |>.field (·.databaseUrl) (.defaulted "database_url" .text ({} : DatabaseConfig).databaseUrl)
    |>.field (·.maxConnections)
      (.defaulted "max_connections" .uint32 ({} : DatabaseConfig).maxConnections)
    |>.codec "DatabaseConfig"

def MatchLimits.codec : Codec MatchLimits :=
  Form.start MatchLimits MatchLimits.mk
    |>.field (·.patternBytes)
      (.defaulted "regex_size_limit" (.uint64 "usize") ({} : MatchLimits).patternBytes)
    |>.field (·.cacheBytes)
      (.defaulted "regex_dfa_size_limit" (.uint64 "usize") ({} : MatchLimits).cacheBytes)
    |>.field (·.fieldBytes)
      (.defaulted "max_regex_input_len" (.uint64 "usize") ({} : MatchLimits).fieldBytes)
    |>.codec "MatchingConfig"

def PollingConfig.codec : Codec PollingConfig :=
  Form.start PollingConfig PollingConfig.mk
    |>.field (·.tickIntervalSeconds)
      (.defaulted "tick_interval_secs" (.uint64 "u64") ({} : PollingConfig).tickIntervalSeconds)
    |>.field (·.defaultIntervalMinutes)
      (.defaulted "default_interval_minutes" .uint32 ({} : PollingConfig).defaultIntervalMinutes)
    |>.codec "PollingConfig"

def LogSettings.codec : Codec LogSettings :=
  Form.start LogSettings LogSettings.mk
    |>.field (·.level) (.defaulted "level" .text ({} : LogSettings).level)
    |>.field (·.json) (.defaulted "json" .flag ({} : LogSettings).json)
    |>.codec "LogSettings"

def RoutingConfig.codec : Codec RoutingConfig :=
  Form.start RoutingConfig RoutingConfig.mk
    |>.field (·.database) (.defaulted "database" DatabaseConfig.codec {})
    |>.field (·.matching) (.defaulted "matching" MatchLimits.codec {})
    |>.field (·.polling) (.defaulted "polling" PollingConfig.codec {})
    |>.field (·.logging) (.defaulted "logging" LogSettings.codec {})
    |>.codec "RoutingConfig"

structure LogOutput where
  level : LogLevel := .info
  json : Bool := false
  fileInfo : Bool := false
  spans : Bool := false
deriving DecidableEq

namespace LogOutput

def withJson (output : LogOutput) : LogOutput := { output with json := true }

def withFileInfo (output : LogOutput) : LogOutput := { output with fileInfo := true }

def withSpans (output : LogOutput) : LogOutput := { output with spans := true }

def ofSettings (settings : LogSettings) : Except RoutingError LogOutput := do
  let output : LogOutput := { level := ← LogLevel.parse settings.level }
  return if settings.json then output.withJson else output

end LogOutput

end TicketRouting
