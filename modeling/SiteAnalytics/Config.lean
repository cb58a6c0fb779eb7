import SiteAnalytics.Json.Value
import SiteAnalytics.Text.Numeral

/-!
# Configuration

The settings of the engine are read from environment variables, each with a default. Spans are given
in whole seconds as unsigned 64-bit words; blanks around the number do not matter.
-/

namespace SiteAnalytics

/-- The settings of the engine. -/
structure Config where
  /-- The address of the column store. -/
  url : String
  user : String
  password : String
  database : String
  /-- For how many seconds a visitor who was seen is not counted as new. -/
  uniqueSpan : Nat
  /-- For how many seconds a heartbeat keeps a visitor live. -/
  heartbeatSpan : Nat
  /-- After how many silent seconds a session is over. -/
  sessionSpan : Nat
  /-- For how many seconds a salt is used. -/
  saltSpan : Nat
  /-- Within how many seconds a funnel has to be passed. -/
  funnelSpan : Nat
  /-- The zone of requests and projects that name none. -/
  timezone : String
  deriving DecidableEq, Repr

/-- A variable that holds no number of seconds. -/
structure ConfigError where
  variableName : String
  cause : NumeralError
  deriving DecidableEq, Repr

/-- The wording of the fault. -/
def ConfigError.message (e : ConfigError) : String :=
  "invalid " ++ e.variableName ++ ": " ++ e.cause.message

namespace Config

/-- The settings without any variables. -/
def standard : Config :=
  { url := "http://localhost:8123"
    user := "default"
    password := ""
    database := "analytics"
    uniqueSpan := 1800
    heartbeatSpan := 60
    sessionSpan := 1800
    saltSpan := 86400
    funnelSpan := 86400
    timezone := "Etc/GMT" }

/-- The variables that are read. -/
def variableNames : List String :=
  ["VANTAGE_CLICKHOUSE_URL", "VANTAGE_CLICKHOUSE_USER", "VANTAGE_CLICKHOUSE_PASSWORD",
    "VANTAGE_CLICKHOUSE_DATABASE", "VANTAGE_UNIQUE_SESSION_TTL_SECS",
    "VANTAGE_HEARTBEAT_TTL_SECS", "VANTAGE_SESSION_DURATION_TTL_SECS", "VANTAGE_SALT_TTL_SECS",
    "VANTAGE_FUNNEL_WINDOW_SECS", "VANTAGE_DEFAULT_TIMEZONE"]

/-- A span from its variable, or the default. -/
def readSpan (env : String → Option String) (name : String) (default : Nat) :
    Except ConfigError Nat :=
  match env name with
  | none => .ok default
  | some raw =>
    match Numeral.readNat Numeral.maxU64 (Text.trimChars raw.toList) with
    | .ok n => .ok n
    | .error cause => .error ⟨name, cause⟩

/-- The settings from the variables `env`; of several faults the first is reported. -/
def read (env : String → Option String) : Except ConfigError Config := do
  let text (name default : String) : String := (env name).getD default
  let uniqueSpan ← readSpan env "VANTAGE_UNIQUE_SESSION_TTL_SECS" standard.uniqueSpan
  let heartbeatSpan ← readSpan env "VANTAGE_HEARTBEAT_TTL_SECS" standard.heartbeatSpan
  let sessionSpan ← readSpan env "VANTAGE_SESSION_DURATION_TTL_SECS" standard.sessionSpan
  let saltSpan ← readSpan env "VANTAGE_SALT_TTL_SECS" standard.saltSpan
  let funnelSpan ← readSpan env "VANTAGE_FUNNEL_WINDOW_SECS" standard.funnelSpan
  return {
    url := text "VANTAGE_CLICKHOUSE_URL" standard.url
    user := text "VANTAGE_CLICKHOUSE_USER" standard.user
    password := text "VANTAGE_CLICKHOUSE_PASSWORD" standard.password
    database := text "VANTAGE_CLICKHOUSE_DATABASE" standard.database
    uniqueSpan, heartbeatSpan, sessionSpan, saltSpan, funnelSpan
    timezone := text "VANTAGE_DEFAULT_TIMEZONE" standard.timezone }

/-- The settings in JSON, spans in seconds. -/
def toJson (c : Config) : Json :=
  .ofMembers
    [("url", .string c.url), ("user", .string c.user), ("password", .string c.password),
      ("database", .string c.database), ("timezone", .string c.timezone),
      ("funnelWindow", .nat c.funnelSpan), ("unique", .nat c.uniqueSpan),
      ("heartbeat", .nat c.heartbeatSpan), ("duration", .nat c.sessionSpan),
      ("salt", .nat c.saltSpan)]

end Config

end SiteAnalytics
