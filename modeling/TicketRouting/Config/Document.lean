import TicketRouting.Config.Settings
import TicketRouting.Toml.Reader
/-!
Reading the configuration from a TOML document. Keys that name no setting are passed over, and so
are the elements of an array beyond the settings that it stands for.
-/
namespace TicketRouting

/-- The settings of a section by name. The elements of an array are the settings in their order, and
a date stands for a section that sets nothing. -/
def Toml.Value.section? (names : List String) : Toml.Value → Option Toml.Entries
  | .table _ entries => some entries
  | .array elements => some (names.zip elements)
  | .tables elements => some (names.zip (elements.map (Toml.Value.table .header)))
  | .date _ => some []
  | _ => none

def Toml.Value.text? : Toml.Value → Option String
  | .text content => some content
  | _ => none

def Toml.Value.flag? : Toml.Value → Option Bool
  | .flag value => some value
  | _ => none

def Toml.Value.natUpTo? (greatest : Nat) : Toml.Value → Option Nat
  | .integer n => if 0 ≤ n ∧ n ≤ greatest then some n.toNat else none
  | _ => none

def Toml.setting {α : Type} (entries : Toml.Entries) (name : String) (fallback : α)
    (read? : Toml.Value → Option α) : Option α :=
  match entries.lookup name with
  | none => some fallback
  | some value => read? value

open Toml (setting)

def uint32? (value : Toml.Value) : Option UInt32 :=
  (value.natUpTo? (UInt32.size - 1)).map UInt32.ofNat

def uint64? (value : Toml.Value) : Option UInt64 :=
  (value.natUpTo? (UInt64.size - 1)).map UInt64.ofNat

def DatabaseConfig.ofToml? (value : Toml.Value) : Option DatabaseConfig := do
  let standard : DatabaseConfig := {}
  let entries ← value.section? ["database_url", "max_connections"]
  return {
    databaseUrl := ← setting entries "database_url" standard.databaseUrl (·.text?)
    maxConnections := ← setting entries "max_connections" standard.maxConnections uint32? }

def MatchLimits.ofToml? (value : Toml.Value) : Option MatchLimits := do
  let standard : MatchLimits := {}
  let entries ← value.section?
    ["regex_size_limit", "regex_dfa_size_limit", "max_regex_input_len"]
  return {
    patternBytes := ← setting entries "regex_size_limit" standard.patternBytes uint64?
    cacheBytes := ← setting entries "regex_dfa_size_limit" standard.cacheBytes uint64?
    fieldBytes := ← setting entries "max_regex_input_len" standard.fieldBytes uint64? }

def PollingConfig.ofToml? (value : Toml.Value) : Option PollingConfig := do
  let standard : PollingConfig := {}
  let entries ← value.section? ["tick_interval_secs", "default_interval_minutes"]
  return {
    tickIntervalSeconds :=
      ← setting entries "tick_interval_secs" standard.tickIntervalSeconds uint64?
    defaultIntervalMinutes :=
      ← setting entries "default_interval_minutes" standard.defaultIntervalMinutes uint32? }

def LogSettings.ofToml? (value : Toml.Value) : Option LogSettings := do
  let standard : LogSettings := {}
  let entries ← value.section? ["level", "json"]
  return {
    level := ← setting entries "level" standard.level (·.text?)
    json := ← setting entries "json" standard.json (·.flag?) }

namespace RoutingConfig

def ofEntries? (entries : Toml.Entries) : Option RoutingConfig := do
  return {
    database := ← setting entries "database" {} DatabaseConfig.ofToml?
    matching := ← setting entries "matching" {} MatchLimits.ofToml?
    polling := ← setting entries "polling" {} PollingConfig.ofToml?
    logging := ← setting entries "logging" {} LogSettings.ofToml? }

def ofDocument (text : String) : Except RoutingError RoutingConfig :=
  match (Toml.parse text).bind ofEntries? with
  | none => .error (.config "invalid configuration")
  | some config => config.validated

/-- The configuration in a file of the given content, which is missing if the file cannot be
opened. -/
def ofFile (name : String) (content : Option ByteArray) : Except RoutingError RoutingConfig :=
  match content.bind String.fromUTF8? with
  | none => .error (.config ("cannot read " ++ name))
  | some text => ofDocument text

end RoutingConfig

end TicketRouting
