import CannedHttp.Admin

/-!
The answer to a request. Admin endpoints come first when the admin interface is enabled; every other
path is looked up in the routes, and what no route matches gets the fallback answer. Each request
and its answer carry an identifier.
-/
namespace CannedHttp.Server

open Http (Request Response)
open Script

def lookUp (c : Config) (routes : List Route) (r : Request) : Script Response := do
  let q := r.descriptor
  reportAll (Matching.notices Matching.defaultStrategies q routes)
  match Matching.find? Matching.defaultStrategies routes q with
  | some m => do
    measure (.request q.method true)
    report (.serving r.id q.method q.path m.route.file m.route.status)
    reportAll (Response.notices m.route)
    pure (.ofRoute m.route m.captures)
  | none => do
    measure (.request q.method false)
    report (.noMatch r.id q.path)
    pure (.fallback c.fallback)

def mock (c : Config) (r : Request) : Script Response := do
  let r ← if c.observability.logRequests then r.log else pure r
  let q := r.descriptor
  report (.matching r.id q.method q.path q.query)
  match ← Store.getRoutes c.routes with
  | .error e => do
    report (.loadFailed r.id e.message)
    pure (.text 500 ("Failed to load route definitions: ".toList ++ e.message))
  | .ok s => lookUp c s.routes r

/-- The endpoint that a path means, if the admin interface is enabled. -/
def endpoint? (c : Config) (path : Text) : Option Admin.Endpoint :=
  if c.admin.enabled then Admin.Endpoint.ofPath? path else none

/-- The answer by path. Targets without a path from the root have none. -/
def dispatch (c : Config) (r : Request) : Script Response :=
  match endpoint? c r.target.path with
  | some e => Admin.handle c e r
  | none => if r.target.path.head? = some '/' then mock c r else pure ⟨404, .empty, []⟩

def identify (r : Request) : Script Request := do
  if r.headers.contains Request.idName then pure r
  else
    let id ← freshId
    pure { r with headers := r.headers.append Request.idName (Utf8.encode id) }

/-- Copy the identifier of a request to its answer, unless the answer has one. -/
def propagate (r : Request) (a : Response) : Response :=
  match r.headers.get? Request.idName with
  | some id =>
    if a.headers.contains Request.idName then a
    else { a with headers := a.headers.append Request.idName id }
  | none => a

/-- Announce the methods of an endpoint that was asked with another one. -/
def announce (c : Config) (r : Request) (a : Response) : Response :=
  match endpoint? c r.target.path with
  | some e =>
    if e.allows r.method then a
    else { a with headers := a.headers.append "allow".toList (Utf8.encode e.allowed) }
  | none => a

def handle (c : Config) (r : Request) : Script Response := do
  let r ← identify r
  let a ← dispatch c r
  pure (announce c r (propagate r a))

def start (c : Config) (address : SocketAddress) : Script Unit :=
  report (.serverStarting address.text c.admin.enabled)

def stop : Script Unit :=
  report .serverStopped

end CannedHttp.Server
