import SiteAnalytics.Query.Chart

/-!
# Error queries

Errors of a window are listed by id, the one seen last first, a page at a time. An error has a
status, which is changed by appending a new one; the latest counts. Error ids are 32 hexadecimal
digits in either case.
-/

namespace SiteAnalytics

/-! ### Options and rows -/

/-- The status of an error. -/
inductive ErrorStatus
  | active | regressed | resolved
  deriving DecidableEq, Repr

namespace ErrorStatus

/-- The name of a status. -/
def name : ErrorStatus → String
  | active => "active"
  | regressed => "regressed"
  | resolved => "resolved"

/-- The status with a name. -/
def ofName? (s : String) : Option ErrorStatus :=
  [active, regressed, resolved].find? fun e => e.name == s

/-- Reads a status. -/
def ofJson? : Json → Option ErrorStatus := Json.name? ofName? Json.isNull

end ErrorStatus

/-- Which page of the errors is listed. -/
structure ErrorListOptions where
  /-- Errors that are resolved are listed as well. -/
  showResolved : Bool
  /-- The number of errors on the page. -/
  take : Nat
  /-- The number of errors before the page. -/
  skip : Nat
  deriving DecidableEq, Repr

namespace ErrorListOptions

/-- The options of a request that names none. -/
def standard : ErrorListOptions := ⟨false, 30, 0⟩

/-- The fields of the options. -/
def fields : List String := ["showResolved", "take", "skip"]

/-- Reads options. -/
def ofJson? (j : Json) : Option ErrorListOptions := do
  let field ← j.record? fields
  let showResolved ← (field "showResolved").defaulted Json.bool? standard.showResolved
  let take ← (field "take").defaulted Json.nat32? standard.take
  let skip ← (field "skip").defaulted Json.nat32? standard.skip
  return ⟨showResolved, take, skip⟩

/-- The options as JSON. -/
def toJson (o : ErrorListOptions) : Json :=
  .ofMembers [("showResolved", .bool o.showResolved), ("take", .nat o.take), ("skip", .nat o.skip)]

end ErrorListOptions

/-- An error in a listing. -/
structure ErrorListing where
  eid : String
  name : String
  message : String
  filename : Option String
  count : Int
  lastSeen : String
  status : ErrorStatus
  deriving DecidableEq, Repr

namespace ErrorListing

/-- The fields of a listing. -/
def fields : List String := ["eid", "name", "message", "filename", "count", "last_seen", "status"]

/-- Reads a listing. -/
def ofJson? (j : Json) : Option ErrorListing := do
  let field ← j.record? fields
  let eid ← (field "eid").required Json.string?
  let name ← (field "name").required Json.string?
  let message ← (field "message").required Json.string?
  let filename ← (field "filename").optional Json.string?
  let count ← (field "count").required Json.int64?
  let lastSeen ← (field "last_seen").required Json.string?
  let status ← (field "status").required ErrorStatus.ofJson?
  return ⟨eid, name, message, filename, count, lastSeen, status⟩

/-- The listing as JSON. -/
def toJson (e : ErrorListing) : Json :=
  .ofMembers
    [("eid", .string e.eid), ("name", .string e.name), ("message", .string e.message),
      ("filename", .option .string e.filename), ("count", .int e.count),
      ("last_seen", .string e.lastSeen), ("status", .string e.status.name)]

end ErrorListing

/-- The text is an error id. -/
def isErrorId (s : String) : Bool :=
  s.toList.length == 32 && s.toList.all fun c =>
    ('0' ≤ c && c ≤ '9') || ('a' ≤ c && c ≤ 'f') || ('A' ≤ c && c ≤ 'F')

/-! ### Queries -/

namespace Query

/-- A page of the errors of a window. -/
def errors (pid : String) (w : Window) (filter : CompiledFilter) (options : ErrorListOptions) :
    Query :=
  { sql :=
      "SELECT e.eid AS eid, any(e.name) AS name, any(e.message) AS message, " ++
        "any(e.filename) AS filename, count() AS count, " ++
        "formatDateTime(max(e.created), '%Y-%m-%d %H:%i:%S', 'UTC') AS last_seen, " ++
        "any(if(s.status = '', 'active', s.status)) AS status " ++
        "FROM (SELECT eid, name, message, filename, created FROM errors WHERE " ++
        Scope.condition ++ filter.text ++ ") AS e LEFT JOIN (" ++ Scope.errorStatuses ++
        ") AS s ON e.eid = s.eid" ++ Chart.statusCondition options.showResolved ++
        " GROUP BY e.eid ORDER BY last_seen DESC LIMIT " ++ Sql.bindCount "take" ++ " OFFSET " ++
        Sql.bindCount "skip"
    params :=
      ((Scope.params pid w filter).insert "take" (.int options.take)).insert "skip"
        (.int options.skip) }

/-- The number of occurrences of an error. -/
def errorExists (pid eid : String) : Query :=
  { sql :=
      "SELECT count() AS c FROM errors WHERE " ++ Scope.projectCondition ++ " AND eid = " ++
        Sql.bind "eid"
    params := Params.ofTexts [("pid", pid), ("eid", eid)] }

/-- Appends a status to an error. -/
def insertStatus (pid eid : String) (status : ErrorStatus) : Query :=
  { sql :=
      "INSERT INTO error_statuses (eid, pid, status, created) SELECT " ++ Sql.bind "eid" ++ ", " ++
        Sql.bind "pid" ++ ", " ++ Sql.bind "status" ++ ", now()"
    params := Params.ofTexts [("eid", eid), ("pid", pid), ("status", status.name)] }

end Query

end SiteAnalytics
