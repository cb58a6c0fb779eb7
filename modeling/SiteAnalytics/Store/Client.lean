import SiteAnalytics.Config
import SiteAnalytics.Http.Message
import SiteAnalytics.Json.Reader
import SiteAnalytics.Store.Program
import SiteAnalytics.Text.Base64
import SiteAnalytics.Text.FormEncoding

/-!
# The column store over HTTP

Query text is sent as the body of a POST request. Every parameter travels in the query string under
the name `param_<name>`, so no value becomes part of the text. Rows are asked for as JSON, with
64-bit integers as numbers, and are found under `data` in the answer.

How a request is sent is left to the caller; no answer stands for a request that could not be sent.
-/

namespace SiteAnalytics

/-- Why the column store did not answer a request. -/
inductive ClientError
  /-- The configured address is none. -/
  | invalidUrl
  /-- The request could not be sent. -/
  | notSent
  /-- The store answered with a status that is no success. -/
  | refused (status : Nat) (body : String)
  /-- The answer is not JSON. -/
  | unreadable
  deriving DecidableEq, Repr

/-- The wording of the fault. -/
def ClientError.message : ClientError → String
  | invalidUrl => "Invalid ClickHouse URL"
  | notSent => "ClickHouse HTTP request failed"
  | refused status body => "ClickHouse error " ++ httpStatusText status ++ ": " ++ body
  | unreadable => "ClickHouse response parse failed"

namespace Client

/-! ### Requests -/

/-- The pairs that a query adds to the address: the database, the settings for rows, and the
parameters in the order of their names. -/
def pairs (config : Config) (q : Query) (wantsRows : Bool) : List (String × String) :=
  [("database", config.database)] ++
    (if wantsRows then
      [("default_format", "JSON"), ("output_format_json_quote_64bit_integers", "0")]
    else []) ++
    (Params.wire q.params).map fun e => ("param_" ++ e.1, e.2)

/-- The query of the address at which a query is put: that of the configured address, and the
pairs. -/
def addressQuery (address : Url) (config : Config) (q : Query) (wantsRows : Bool) : List Char :=
  FormEncoding.append address.query (pairs config q wantsRows)

/-- Path and query of a request. -/
def target (address : WebAddress) (config : Config) (q : Query) (wantsRows : Bool) :
    List Char :=
  address.path ++ '?' :: addressQuery (.web address) config q wantsRows

/-- User and password as the value of a header. -/
def authorization (config : Config) : String :=
  "Basic " ++ String.ofList
    (Base64.encode (Text.bytes config.user ++ Text.bytes ":" ++ Text.bytes config.password))

/-- The request for a query. -/
def request (config : Config) (q : Query) (wantsRows : Bool) : Except ClientError HttpRequest :=
  match Url.parse? config.url with
  | none => .error .invalidUrl
  | some (.other ..) => .error .notSent
  | some (.web server) =>
    .ok
      { server
        method := "POST"
        target := String.ofList (target server config q wantsRows)
        authorization := authorization config
        body := q.sql.render }

/-- The requests by which a store is asked what `log` lists; none where the address is of no use. -/
def requests (config : Config) (log : List StoreRequest) : List HttpRequest :=
  log.filterMap fun asked =>
    match asked with
    | .query q => (request config q true).toOption
    | .execute q => (request config q false).toOption

/-! ### Answers -/

/-- The body of an answer. -/
def accepted : Option HttpResponse → Except ClientError String
  | none => .error .notSent
  | some r => if r.isSuccess then .ok r.body else .error (.refused r.status r.text)

/-- The rows in the body of an answer; none if it has no list of rows. -/
def rows (body : String) : Except ClientError (List Json) :=
  match Json.parse? body with
  | none => .error .unreadable
  | some j => .ok (((j.get? "data").bind Json.items?).getD [])

/-! ### Exchanges -/

variable {m : Type → Type} [Monad m]

/-- Sends a query and takes the body of the answer. -/
def post (config : Config) (send : HttpRequest → m (Option HttpResponse)) (q : Query)
    (wantsRows : Bool) : m (Except ClientError String) :=
  match request config q wantsRows with
  | .error e => pure (.error e)
  | .ok r => do return accepted (← send r)

/-- Asks for rows. -/
def query (config : Config) (send : HttpRequest → m (Option HttpResponse)) (q : Query) :
    m (Except String (List Json)) := do
  let body ← post config send q true
  return (body.bind rows).mapError ClientError.message

/-- Gives a command. -/
def execute (config : Config) (send : HttpRequest → m (Option HttpResponse)) (q : Query) :
    m (Except String Unit) := do
  let body ← post config send q false
  return (body.map fun _ => ()).mapError ClientError.message

end Client

/-- The column store behind a web server that answers every request in the same way. -/
def ColumnStore.ofServer (config : Config) (answer : HttpRequest → Option HttpResponse) :
    ColumnStore :=
  { query := fun _ q => Client.query (m := Id) config answer q
    execute := fun _ q => Client.execute (m := Id) config answer q }

end SiteAnalytics
