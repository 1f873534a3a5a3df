import CannedHttp.Store

/-!
Bringing a server up: the metrics endpoint, the routes, the watcher and, last, the listener, so that
requests come only when everything is ready. Each change in the watched directory is announced to
the reload loop, which waits for the changes to settle, takes all announcements that have come in,
and reloads once.
-/
namespace CannedHttp

namespace Watch

open Script

/-- Look out for changes in the route directory. -/
def start (c : Config.Routes) : Script Unit := do
  watch c.directory
  report (.watching (Path.diagnostic c.directory))

/-- One round of the loop, after the announcements have been taken. -/
def reloadOnce (c : Config.Routes) : Script Unit := do
  report .changeDetected
  match ← Store.reload c with
  | .ok s => report (.changeLoaded s.routes.length)
  | .error e => report (.changeNotLoaded e.message)

end Watch

namespace Startup

inductive Error where
  | metrics (e : IoError)
  | routes (e : Store.Error)
  | bind (address : Text) (e : IoError)

def Error.message : Error → Text
  | .metrics e =>
    "failed to start metrics exporter: failed to create HTTP listener: ".toList ++ e.message
  | .routes e => "failed to load route definitions: ".toList ++ e.message
  | .bind address e => "failed to bind ".toList ++ address ++ ": ".toList ++ e.message

open Text.Diagnostic (record tuple) in
def Error.diagnostic : Error → Text
  | .metrics e =>
    tuple "Metrics" [tuple "FailedToCreateHTTPListener" [Text.Quoted.diagnostic e.message]]
  | .routes e => tuple "Routes" [e.diagnostic]
  | .bind address e =>
    record "Bind" [("address", Text.Quoted.diagnostic address), ("source", e.diagnostic)]

structure Started where
  address : SocketAddress
  watching : Bool

open Script

def startMetrics (c : Config.Observability) : Script (Except Error Unit) := do
  if c.metricsEnabled then
    match SocketAddress.parse? c.metricsAddress with
    | none => do
      report (.badMetricsAddress c.metricsAddress)
      pure (.ok ())
    | some address =>
      match ← bindListener c.metricsAddress with
      | .error e => pure (.error (.metrics e))
      | .ok _ => do
        report (.metricsListening address.text)
        pure (.ok ())
  else pure (.ok ())

def prewarm (c : Config.Routes) : Script (Except Error Unit) := do
  if c.prewarm then
    match ← Store.getRoutes c with
    | .error e => pure (.error (.routes e))
    | .ok s => do
      report (.prewarmed s.routes.length)
      pure (.ok ())
  else pure (.ok ())

/-- Start watching if that is wanted and possible, and tell whether it is done. -/
def startWatching (c : Config.Routes) : Script Bool := do
  if c.watch then
    if ← Store.pathExists c.directory then do
      Watch.start c
      pure true
    else do
      report (.notWatching (Path.display c.directory))
      pure false
  else pure false

def start (c : Config) : Script (Except Error Started) := do
  match ← startMetrics c.observability with
  | .error e => pure (.error e)
  | .ok () =>
    match ← prewarm c.routes with
    | .error e => pure (.error e)
    | .ok () => do
      let watching ← startWatching c.routes
      match ← bindListener c.listener.address with
      | .error e => pure (.error (.bind c.listener.address e))
      | .ok address => do
        report (.listening address.text)
        pure (.ok ⟨address, watching⟩)

end Startup
end CannedHttp
