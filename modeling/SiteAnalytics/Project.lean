import SiteAnalytics.Funnel

/-!
# Projects

Projects and the funnels saved for them are looked up by id. A saved funnel is kept under its own id
alone: saving another one under the same id replaces it, for whichever project it was. A funnel is
found only by way of its project, and only funnels with valid steps are saved.
-/

namespace SiteAnalytics

/-- A site whose visits are counted. -/
structure Project where
  id : String
  name : String
  /-- The zone of requests that name none. -/
  timezone : Option String
  /-- The sites that may send events. -/
  origins : List String
  /-- The addresses whose events are dropped. -/
  blockedAddresses : List String
  botProtection : String
  hasPassword : Bool
  deriving DecidableEq, Repr

namespace Project

/-- The fields of a project. -/
def fields : List String :=
  ["id", "name", "timezone", "origins", "ipBlacklist", "botProtectionLevel", "passwordProtected"]

/-- Reads a project. -/
def ofJson? (j : Json) : Option Project := do
  let field ← j.record? fields
  let id ← (field "id").required Json.string?
  let name ← (field "name").required Json.string?
  let timezone ← (field "timezone").defaulted (Json.option? Json.string?) none
  let origins ← (field "origins").defaulted Json.strings? []
  let blockedAddresses ← (field "ipBlacklist").defaulted Json.strings? []
  let botProtection ← (field "botProtectionLevel").defaulted Json.string? ""
  let hasPassword ← (field "passwordProtected").defaulted Json.bool? false
  return { id, name, timezone, origins, blockedAddresses, botProtection, hasPassword }

/-- The project as JSON. -/
def toJson (p : Project) : Json :=
  .ofMembers
    [("id", .string p.id), ("name", .string p.name), ("timezone", .option .string p.timezone),
      ("origins", .strings p.origins), ("ipBlacklist", .strings p.blockedAddresses),
      ("botProtectionLevel", .string p.botProtection), ("passwordProtected", .bool p.hasPassword)]

/-- A project of which only the id is known. -/
def bare (id : String) : Project := ⟨id, id, none, [], [], "", false⟩

end Project

/-- A funnel saved for a project. -/
structure SavedFunnel where
  id : String
  pid : String
  name : String
  steps : List String
  deriving DecidableEq, Repr

namespace SavedFunnel

/-- The fields of a saved funnel. -/
def fields : List String := ["id", "pid", "name", "steps"]

/-- Reads a saved funnel. -/
def ofJson? (j : Json) : Option SavedFunnel := do
  let field ← j.record? fields
  let id ← (field "id").required Json.string?
  let pid ← (field "pid").required Json.string?
  let name ← (field "name").required Json.string?
  let steps ← (field "steps").required Json.strings?
  return ⟨id, pid, name, steps⟩

/-- The saved funnel as JSON. -/
def toJson (f : SavedFunnel) : Json :=
  .ofMembers
    [("id", .string f.id), ("pid", .string f.pid), ("name", .string f.name),
      ("steps", .strings f.steps)]

end SavedFunnel

/-- The projects and the saved funnels that are known. -/
structure Registry where
  projects : Dict Project
  /-- The saved funnels by their own id. -/
  funnels : Dict SavedFunnel

namespace Registry

/-- Nothing is known. -/
def empty : Registry := ⟨∅, ∅⟩

/-- Adds a project, or replaces the one with its id. -/
def addProject (r : Registry) (p : Project) : Registry :=
  { r with projects := r.projects.insert p.id p }

/-- Saves a funnel, in place of any other with its id. -/
def saveFunnel (r : Registry) (f : SavedFunnel) : Except ValidationError Registry := do
  Funnel.check f.steps
  return { r with funnels := r.funnels.insert f.id f }

/-- The project with an id. -/
def project? (r : Registry) (pid : String) : Option Project := r.projects.get? pid

/-- The funnel of a project with an id. -/
def funnel? (r : Registry) (pid id : String) : Option SavedFunnel :=
  (r.funnels.get? id).filter fun f => f.pid == pid

end Registry

end SiteAnalytics
