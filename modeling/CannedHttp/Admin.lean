import CannedHttp.Http.Request
import CannedHttp.Http.Response
import CannedHttp.Store

/-!
The admin interface: three endpoints behind a bearer token, for the state of the server, the list of
its routes, and a reload.
-/
namespace CannedHttp.Admin

open Http (Request Response)
open Script

inductive Endpoint where
  | status
  | routes
  | reload
  deriving DecidableEq

namespace Endpoint

def ofPath? (path : Text) : Option Endpoint :=
  if path = "/admin/status".toList then some .status
  else if path = "/admin/routes".toList then some .routes
  else if path = "/admin/reload".toList then some .reload
  else none

/-- The methods that an endpoint answers, as it announces them. -/
def allowed : Endpoint → Text
  | .status | .routes => "GET,HEAD".toList
  | .reload => "POST".toList

def allows (e : Endpoint) (method : Text) : Bool :=
  match e with
  | .status | .routes => method == "GET".toList || method == "HEAD".toList
  | .reload => method == "POST".toList

end Endpoint

def authorizationName : Text := "authorization".toList

def token? (r : Request) : Option Text :=
  ((r.headers.get? authorizationName).bind Http.readableText?).bind
    (Text.dropStart? "Bearer ".toList)

def isAuthorized (c : Config.Admin) (r : Request) : Bool :=
  token? r == some c.apiKey

def version : Text := "0.1.0".toList

def statusJson (directory : Path) (routes? : Option Nat) : Json :=
  .obj [
    ("version".toList, .str version),
    ("status".toList, .str "operational".toList),
    ("directory".toList, .str directory.display),
    ("routes".toList, Json.ofOption .num routes?)]

/-- The state of the server. Routes are counted only once there is a snapshot. -/
def status (c : Config.Routes) : Script Response := do
  if ← Store.isPopulated then
    let routes ← Store.getRoutes c
    pure (.json (statusJson c.directory (routes.toOption.map fun s => s.routes.length)))
  else pure (.json (statusJson c.directory none))

def routes (c : Config.Routes) : Script Response := do
  match ← Store.getRoutes c with
  | .ok s => pure (.json (.arr (s.routes.map Route.toJson)))
  | .error e => pure (.text 500 e.message)

def reload (c : Config.Routes) : Script Response := do
  match ← Store.reload c with
  | .ok s => do
    report (.adminReloaded s.routes.length)
    pure (.json (.obj [("routes".toList, .num s.routes.length)]))
  | .error e => do
    report (.adminReloadFailed e.message)
    pure (.text 500 e.message)

def Endpoint.answer (c : Config.Routes) : Endpoint → Script Response
  | .status => Admin.status c
  | .routes => Admin.routes c
  | .reload => Admin.reload c

/-- The answer of an endpoint: nothing without the key, nor with another method than its own. -/
def handle (c : Config) (e : Endpoint) (r : Request) : Script Response := do
  if isAuthorized c.admin r then
    if e.allows r.method then e.answer c.routes else pure ⟨405, .empty, []⟩
  else do
    report (.adminRejected r.target.path)
    pure ⟨401, .empty, []⟩

end CannedHttp.Admin
