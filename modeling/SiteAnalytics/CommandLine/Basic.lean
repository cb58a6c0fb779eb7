import SiteAnalytics.CommandLine.Explanation
import SiteAnalytics.Engine

/-!
# The command line

A command reads a request file and prints the answer as JSON. The projects that the file names are
taken to exist. `explain` shows the query of a chart without asking the column store; `chart`,
`summary`, `funnel` and `flow` ask it.

Wrong usage ends with status 2 and all other failures with status 1. A request that is refused is
reported as JSON, a file or a setting that cannot be read as text.
-/

namespace SiteAnalytics

/-- What the program is asked to do. -/
inductive Command
  | explain | chart | summary | funnel | flow
  deriving DecidableEq, Repr

namespace Command

/-- All commands. -/
def all : List Command := [explain, chart, summary, funnel, flow]

/-- The name of a command. -/
def name : Command → String
  | explain => "explain"
  | chart => "chart"
  | summary => "summary"
  | funnel => "funnel"
  | flow => "flow"

/-- The command with a name. -/
def ofName? (s : String) : Option Command := all.find? fun c => c.name == s

/-- How the program is called. -/
def usage : String := "usage: vantage <explain|chart|summary|funnel|flow> <request.json>"

/-- The projects that a file names. -/
def pids (file : RequestFile) : List String :=
  if file.pids.isEmpty then [file.request.pid] else file.pids

/-- The engine for a file: every project that the file names exists. -/
def engine (zones : ZoneSource) (config : Config) (file : RequestFile) : Engine :=
  { config, zones
    registry := (pids file ++ [file.request.pid]).foldl
      (fun r pid => r.addProject (.bare pid)) .empty }

/-- Carries out a command at the instant `now`. -/
def run (c : Command) (zones : ZoneSource) (config : Config) (now : DateTime)
    (file : RequestFile) : StoreTask Json := do
  let e := engine zones config file
  match c with
  | explain => return (← StoreTask.result (Explanation.of zones config now file)).toJson
  | chart => return (← e.chart now file.request file.kind file.options).toJson
  | summary => return .dict PeriodComparison.toJson (← e.summary now file.request (pids file))
  | funnel => return .list FunnelStep.toJson (← e.funnel now file.request file.steps)
  | flow => return (← e.userFlow now file.request).toJson

end Command

/-! ### Calls -/

/-- Why a call comes to nothing before the command is carried out. -/
inductive CallError
  /-- The arguments name no command or no file. -/
  | usage
  /-- A setting cannot be read. -/
  | config (e : ConfigError)
  /-- The file cannot be read, or is no request. -/
  | requestFile (path : String)
  deriving DecidableEq, Repr

/-- The wording of the fault. -/
def CallError.message : CallError → String
  | usage => Command.usage
  | config e => e.message
  | requestFile path => path ++ " is not a valid request"

/-- A call of the program, ready to be carried out. -/
structure Call where
  command : Command
  config : Config
  file : RequestFile

namespace Call

/-- Command and path in the arguments. Further arguments do not matter. -/
def arguments : List String → Except CallError (Command × String)
  | name :: path :: _ =>
    match Command.ofName? name with
    | some command => .ok (command, path)
    | none => .error .usage
  | _ => .error .usage

/-- Prepares a call: settings first, then the text of the file at `path`, if there is one. -/
def prepare (command : Command) (path : String) (env : String → Option String)
    (text : Option String) : Except CallError Call := do
  let config ← (Config.read env).mapError .config
  match text.bind RequestFile.read? with
  | some file => return { command, config, file }
  | none => throw (.requestFile path)

/-- Carries out a call. -/
def run (c : Call) (now : DateTime) (zones : ZoneSource := .listed) : StoreTask Json :=
  c.command.run zones c.config now c.file

end Call

/-! ### Outcomes -/

/-- How a call ends. -/
inductive Outcome
  /-- The call came to nothing. -/
  | notCalled (e : CallError)
  /-- The request was not answered. -/
  | refused (e : EngineError)
  | answered (j : Json)

namespace Outcome

/-- The exit status. -/
def status : Outcome → Nat
  | notCalled .usage => 2
  | notCalled _ => 1
  | refused .outOfCalendar => 101
  | refused _ => 1
  | answered _ => 0

/-- What a client is told about an error, as JSON. -/
def errorJson (e : EngineError) : Json :=
  .ofMembers
    [("status", .nat e.response.status), ("code", .string e.response.code),
      ("message", .string e.response.message)]

end Outcome

end SiteAnalytics
