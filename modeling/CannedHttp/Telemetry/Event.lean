import CannedHttp.Text.Basic

/-!
Everything that the server reports in its log. Each kind of event fixes a level, a message, the part
of the server that speaks, and named fields.
-/
namespace CannedHttp

inductive Level where
  | error
  | warn
  | info
  | debug
  | trace
  deriving DecidableEq

namespace Level

/-- How much a level lets through: everything that is at most as detailed. -/
def detail : Level → Nat
  | .error => 1
  | .warn => 2
  | .info => 3
  | .debug => 4
  | .trace => 5

def name : Level → Text
  | .error => "ERROR".toList
  | .warn => "WARN".toList
  | .info => "INFO".toList
  | .debug => "DEBUG".toList
  | .trace => "TRACE".toList

end Level

inductive FieldValue where
  | text (t : Text)
  | number (n : Nat)
  | flag (b : Bool)
  deriving DecidableEq

inductive Event where
  | malformedHeader (file : Text) (line : Nat)
  | unknownStatus (file : Text) (line : Nat) (value : Text) (kept : Nat)
  | definitionsParsed (file : Text) (routes : Nat)
  | capturedTwice (name previous value : Text)
  | routeMatched (file url strategy : Text)
  | invalidStatus (file : Text) (status : Nat)
  | invalidHeader (file header : Text)
  | directoryAbsent (directory : Text)
  | fileSkipped (file error : Text)
  | routesLoaded (directory : Text) (files routes : Nat)
  | prewarmed (routes : Nat)
  | notWatching (directory : Text)
  | watching (directory : Text)
  | changeDetected
  | changeLoaded (routes : Nat)
  | changeNotLoaded (error : Text)
  | badMetricsAddress (address : Text)
  | metricsListening (address : Text)
  | listening (address : Text)
  | serverStarting (address : Text) (admin : Bool)
  | serverStopped
  | requestReceived (id method uri headers payload : Text)
  | bodyNotLogged (id error : Text)
  | matching (id method path query : Text)
  | loadFailed (id error : Text)
  | serving (id method path file : Text) (status : Nat)
  | noMatch (id path : Text)
  | adminRejected (path : Text)
  | adminReloaded (routes : Nat)
  | adminReloadFailed (error : Text)
  | programStarting (version : Text)
  | configured (address directory pattern : Text)
  | interrupted
  | terminated
  | programStopped
  deriving DecidableEq

namespace Event

def level : Event → Level
  | .malformedHeader .. | .definitionsParsed .. | .capturedTwice .. | .routeMatched ..
  | .matching .. => .debug
  | .unknownStatus .. | .invalidStatus .. | .invalidHeader .. | .directoryAbsent ..
  | .fileSkipped .. | .notWatching .. | .bodyNotLogged .. | .noMatch .. | .adminRejected .. => .warn
  | .changeNotLoaded .. | .badMetricsAddress .. | .loadFailed .. | .adminReloadFailed .. => .error
  | .routesLoaded .. | .prewarmed .. | .watching .. | .changeDetected | .changeLoaded ..
  | .metricsListening .. | .listening .. | .serverStarting .. | .serverStopped
  | .requestReceived .. | .serving .. | .adminReloaded .. | .programStarting .. | .configured ..
  | .interrupted | .terminated | .programStopped => .info

def message : Event → Text
  | .malformedHeader .. => "Ignoring malformed header line".toList
  | .unknownStatus _ _ _ kept =>
    "Unrecognised status code, keeping ".toList ++ Nat.toDigits 10 kept
  | .definitionsParsed .. => "Parsed route definitions".toList
  | .capturedTwice .. => "Variable captured twice, keeping the later value".toList
  | .routeMatched .. => "Route matched".toList
  | .invalidStatus .. => "Invalid status code in definition".toList
  | .invalidHeader .. => "Skipping invalid response header".toList
  | .directoryAbsent .. => "Route directory does not exist, serving no routes".toList
  | .fileSkipped .. => "Skipping invalid definition file".toList
  | .routesLoaded .. => "Route definitions loaded".toList
  | .prewarmed .. => "Route cache pre-warmed".toList
  | .notWatching .. => "Route directory missing, not watching".toList
  | .watching .. => "Route watcher started".toList
  | .changeDetected => "Route definition change detected, reloading...".toList
  | .changeLoaded .. => "Route definitions reloaded".toList
  | .changeNotLoaded error =>
    "Failed to reload route definitions: ".toList ++ error ++ ". Keeping current routes.".toList
  | .badMetricsAddress .. => "Failed to parse metrics address".toList
  | .metricsListening .. => "Metrics endpoint listening".toList
  | .listening .. => "Listening for connections".toList
  | .serverStarting .. => "HTTP server starting".toList
  | .serverStopped => "HTTP server stopped".toList
  | .requestReceived .. => "Processing request".toList
  | .bodyNotLogged .. => "Request body not logged".toList
  | .matching .. => "Matching request".toList
  | .loadFailed .. => "Failed to load route definitions".toList
  | .serving .. => "Serving canned response".toList
  | .noMatch .. => "No route matched".toList
  | .adminRejected .. => "Rejected admin request".toList
  | .adminReloaded .. => "Route definitions reloaded via admin API".toList
  | .adminReloadFailed .. => "Admin reload failed".toList
  | .programStarting version => "httpfile-mock v".toList ++ version ++ " starting".toList
  | .configured .. => "Configuration loaded".toList
  | .interrupted => "Ctrl+C received".toList
  | .terminated => "SIGTERM received".toList
  | .programStopped => "Shutdown complete".toList

def rawFields : Event → List (String × FieldValue)
  | .malformedHeader file line => [("file", .text file), ("line", .number line)]
  | .unknownStatus file line value _ =>
    [("file", .text file), ("line", .number line), ("value", .text value)]
  | .definitionsParsed file routes => [("file", .text file), ("routes", .number routes)]
  | .capturedTwice name previous value =>
    [("variable", .text name), ("previous", .text previous), ("value", .text value)]
  | .routeMatched file url strategy =>
    [("file", .text file), ("url", .text url), ("strategy", .text strategy)]
  | .invalidStatus file status => [("file", .text file), ("status", .number status)]
  | .invalidHeader file header => [("file", .text file), ("header", .text header)]
  | .directoryAbsent directory | .notWatching directory | .watching directory =>
    [("directory", .text directory)]
  | .fileSkipped file error => [("file", .text file), ("error", .text error)]
  | .routesLoaded directory files routes =>
    [("directory", .text directory), ("files", .number files), ("routes", .number routes)]
  | .prewarmed routes | .changeLoaded routes | .adminReloaded routes => [("routes", .number routes)]
  | .badMetricsAddress address => [("metrics_address", .text address)]
  | .metricsListening address | .listening address => [("address", .text address)]
  | .serverStarting address admin => [("address", .text address), ("admin", .flag admin)]
  | .requestReceived id method uri headers payload =>
    [("request_id", .text id), ("method", .text method), ("uri", .text uri),
      ("headers", .text headers), ("payload", .text payload)]
  | .bodyNotLogged id error | .loadFailed id error =>
    [("request_id", .text id), ("error", .text error)]
  | .matching id method path query =>
    [("request_id", .text id), ("method", .text method), ("path", .text path),
      ("query", .text query)]
  | .serving id method path file status =>
    [("request_id", .text id), ("method", .text method), ("path", .text path),
      ("file", .text file), ("status", .number status)]
  | .noMatch id path => [("request_id", .text id), ("path", .text path)]
  | .adminRejected path => [("path", .text path)]
  | .adminReloadFailed error => [("error", .text error)]
  | .configured address directory pattern =>
    [("bind_address", .text address), ("routes_directory", .text directory),
      ("file_pattern", .text pattern)]
  | .changeDetected | .changeNotLoaded _ | .serverStopped | .programStarting _ | .interrupted
  | .terminated | .programStopped => []

def fields (e : Event) : List (Text × FieldValue) :=
  e.rawFields.map fun f => (f.1.toList, f.2)

def rawTarget : Event → String
  | .malformedHeader .. | .unknownStatus .. | .definitionsParsed .. =>
    "httpfile_mock::httpfile::parser"
  | .capturedTwice .. => "httpfile_mock::routing::matcher"
  | .routeMatched .. => "httpfile_mock::routing::router"
  | .invalidStatus .. | .invalidHeader .. => "httpfile_mock::http::response"
  | .directoryAbsent .. | .fileSkipped .. | .routesLoaded .. => "httpfile_mock::store::cache"
  | .watching .. | .changeDetected | .changeLoaded .. | .changeNotLoaded .. =>
    "httpfile_mock::store::watcher"
  | .prewarmed .. | .notWatching .. | .badMetricsAddress .. | .listening .. =>
    "httpfile_mock::lifecycle::startup"
  | .metricsListening .. => "httpfile_mock::observability::metrics"
  | .requestReceived .. | .bodyNotLogged .. => "httpfile_mock::http::request"
  | .serverStarting .. | .serverStopped | .matching .. | .loadFailed .. | .serving ..
  | .noMatch .. => "httpfile_mock::http::server"
  | .adminRejected .. => "httpfile_mock::admin::auth"
  | .adminReloaded .. | .adminReloadFailed .. => "httpfile_mock::admin::handlers"
  | .interrupted | .terminated => "httpfile_mock::lifecycle::signals"
  | .programStarting .. | .configured .. | .programStopped => "httpfile_mock"

/-- The part of the server that the event comes from, as a log filter names it. -/
def target (e : Event) : Text :=
  e.rawTarget.toList

end Event
end CannedHttp
